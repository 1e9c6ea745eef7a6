import MarketDesk.Proofs.Venue.Depth
import MarketDesk.Proofs.Venue.Failure
import MarketDesk.Proofs.Venue.Rejection

/-!
# What an error says

The status of a response decides whether its body is read as a result or as a rejection, and what
the body holds decides the rest. So the error of an operation tells what came of its request: the
transport failed, the venue rejected it, or an answer came that could not be read. An operation that
does not get as far as a request has none of these errors.
-/

namespace MarketDesk

theorem Http.Response.isSuccess_eq_true_iff (r : Response) :
    r.isSuccess = true ↔ 200 ≤ r.status ∧ r.status ≤ 299 := by
  rw [isSuccess, Bool.and_eq_true, decide_eq_true_iff, decide_eq_true_iff]

/-- A result is of the class that the status and the body of a response put it in. -/
structure Http.Response.Classifies {α : Type} (r : Response) (decode : Decoder α)
    (result : Except VenueError α) : Prop where
  ok : ∀ value, result = .ok value ↔
    (200 ≤ r.status ∧ r.status ≤ 299) ∧ decode.run r.body = .ok value
  malformedResponse : (∃ reason, result = .error (.malformedResponse reason)) ↔
    (200 ≤ r.status ∧ r.status ≤ 299) ∧ ∀ value, decode.run r.body ≠ .ok value
  rejected : ∀ code text, result = .error (.rejected code text) ↔
    ¬(200 ≤ r.status ∧ r.status ≤ 299) ∧ Rejection.IsIn ⟨code, text⟩ r.body
  malformedRejection : ∀ status, (∃ reason, result = .error (.malformedRejection status reason)) ↔
    status = r.status ∧ ¬(200 ≤ r.status ∧ r.status ≤ 299) ∧
      ∀ rejection, ¬Rejection.IsIn rejection r.body

theorem Http.Response.classifies_decode {α : Type} (r : Response) (decode : Decoder α) :
    r.Classifies decode (r.decode decode) := by
  unfold Http.Response.decode
  by_cases hrange : 200 ≤ r.status ∧ r.status ≤ 299
  · rw [if_pos (r.isSuccess_eq_true_iff.mpr hrange)]
    cases hrun : decode.run r.body with
    | ok value => constructor <;> simp [hrange, hrun]
    | error e => constructor <;> simp [hrange, hrun]
  · rw [if_neg fun h => hrange (r.isSuccess_eq_true_iff.mp h)]
    have hin (rejection : Rejection) :
        rejection.IsIn r.body ↔ Rejection.decode.run r.body = .ok rejection :=
      (rejection.run_decode_eq_ok_iff r.body).symm
    cases hrun : Rejection.decode.run r.body with
    | ok rejection =>
      exact {
        ok := by simp [hrange]
        malformedResponse := by simp [hrange]
        rejected := fun code text => by
          rw [and_iff_right hrange, hin, hrun, Except.ok.injEq, Except.error.injEq,
            VenueError.rejected.injEq, Rejection.mk.injEq]
        malformedRejection := fun status =>
          iff_of_false nofun fun h => h.2.2 rejection ((hin rejection).mpr hrun) }
    | error e =>
      exact {
        ok := by simp [hrange]
        malformedResponse := by simp [hrange]
        rejected := by simp [hin, hrun]
        malformedRejection := by simp [hrange, hin, hrun, eq_comm] }

/-- The errors that a reply leads to. -/
inductive Reply.Errs : Reply → VenueError → Prop
  | network (reason : String) : (failure reason).Errs (.network reason)
  | http : httpFailure.Errs .http
  | malformedResponse (r : Http.Response) (reason : String) :
      (response r).Errs (.malformedResponse reason)
  | rejected {r : Http.Response} {code : Int32} {text : String}
      (hstatus : ¬(200 ≤ r.status ∧ r.status ≤ 299)) (hin : Rejection.IsIn ⟨code, text⟩ r.body) :
      (response r).Errs (.rejected code text)
  | malformedRejection (r : Http.Response) (reason : String) :
      (response r).Errs (.malformedRejection r.status reason)

/-- The four classes of a response leave no other error. -/
theorem Http.Response.Classifies.errs {α : Type} {r : Response} {decode : Decoder α}
    {e : VenueError} (h : r.Classifies decode (.error e)) : (Reply.response r).Errs e := by
  by_cases hrange : 200 ≤ r.status ∧ r.status ≤ 299
  · obtain ⟨reason, he⟩ := h.malformedResponse.mpr
      ⟨hrange, fun value hvalue => nomatch (h.ok value).mpr ⟨hrange, hvalue⟩⟩
    exact Except.error.inj he ▸ .malformedResponse r reason
  · by_cases hin : ∃ rejection, Rejection.IsIn rejection r.body
    · obtain ⟨⟨code, text⟩, hin⟩ := hin
      have he := (h.rejected code text).mpr ⟨hrange, hin⟩
      exact Except.error.inj he ▸ .rejected hrange hin
    · obtain ⟨reason, he⟩ := (h.malformedRejection r.status).mpr
        ⟨rfl, hrange, fun rejection hrejection => hin ⟨rejection, hrejection⟩⟩
      exact Except.error.inj he ▸ .malformedRejection r reason

theorem Depth.eq_malformedResponse_of_toSnapshot {d : Depth} {pair : CurrencyPair} {now : Instant}
    {e : VenueError} (h : d.toSnapshot pair now = .error e) :
    ∃ reason, e = .malformedResponse reason := by
  obtain ⟨cause, -, he⟩ := (d.toSnapshot_eq_error_iff pair now e).mp h
  exact ⟨cause.message, he⟩

namespace Reply.Errs

variable {reply : Reply} {e : VenueError}

theorem transport (h : reply.Errs e) (he : e.isTransportError = true) :
    reply = .httpFailure ∨ ∃ reason, reply = .failure reason := by
  cases h with
  | network reason => exact Or.inr ⟨reason, rfl⟩
  | http => exact Or.inl rfl
  | _ => exact nomatch he

theorem venueCode (h : reply.Errs e) {code : Int32} (he : e.venueCode? = some code) :
    ∃ response text, reply = .response response ∧
      ¬(200 ≤ response.status ∧ response.status ≤ 299) ∧
      Rejection.IsIn ⟨code, text⟩ response.body := by
  cases h with
  | rejected hstatus hin => exact ⟨_, _, rfl, hstatus, Option.some.inj he ▸ hin⟩
  | _ => exact nomatch he

end Reply.Errs

theorem VenueError.isClockSkew_iff (e : VenueError) :
    e.isClockSkew = true ↔ e.venueCode? = some (-1021) := beq_iff_eq

/-- No error is in two of the three classes. -/
theorem VenueError.classes_exclusive (e : VenueError) :
    ¬(e.isDecodeError = true ∧ e.isTransportError = true) ∧
      ¬(e.isDecodeError = true ∧ e.venueCode?.isSome = true) ∧
      ¬(e.isTransportError = true ∧ e.venueCode?.isSome = true) := by
  cases e <;> simp [isDecodeError, isTransportError, venueCode?]

namespace Session

theorem errs_of_readReply {α : Type} {decode : Decoder α} {reply : Reply} {e : VenueError}
    (h : readReply decode reply = .error e) : reply.Errs e := by
  cases reply with
  | failure reason => exact Outcome.error.inj h ▸ .network reason
  | httpFailure => exact Outcome.error.inj h ▸ .http
  | hang => exact nomatch h
  | response r =>
    have hdecode : r.decode decode = .error e := Outcome.ofExcept_eq_error_iff.mp h
    exact (hdecode ▸ r.classifies_decode decode).errs

theorem errs_of_readBook {pair : CurrencyPair} {clock : Clock} {reply : Reply} {e : VenueError}
    (h : readBook pair clock reply = .error e) : reply.Errs e := by
  rcases Outcome.bind_eq_error_iff.mp h with hread | ⟨depth, hread, hbook⟩
  · exact errs_of_readReply hread
  · obtain ⟨reason, rfl⟩ :=
      Depth.eq_malformedResponse_of_toSnapshot (Outcome.ofExcept_eq_error_iff.mp hbook)
    obtain ⟨response, rfl, -⟩ := readReply_eq_ok_iff.mp hread
    exact .malformedResponse response reason

end Session

namespace Operation

open Session

variable {op : Operation} {clock : Clock} {reply : Reply} {e : VenueError}

theorem errs_of_answer (h : op.answer clock reply = .error e) : reply.Errs e := by
  cases op with
  | fetchBook pair limit => exact errs_of_readBook (Outcome.map_eq_error_iff.mp h)
  | updateBook pair limit => exact errs_of_readBook (Outcome.map_eq_error_iff.mp h)
  | _ => exact errs_of_readReply (Outcome.map_eq_error_iff.mp h)

/-- An error that does not depend on what is decoded is passed on. -/
theorem answer_of_error (h : ∀ {α : Type} (decode : Decoder α), readReply decode reply = .error e) :
    op.answer clock reply = .error e := by
  have hmap {α : Type} (decode : Decoder α) (f : α → Answer) :
      (readReply decode reply).map f = .error e := Outcome.map_eq_error_iff.mpr (h decode)
  have hbook (pair : CurrencyPair) (f : Snapshot → Answer) :
      (readBook pair clock reply).map f = .error e :=
    Outcome.map_eq_error_iff.mpr (Outcome.bind_eq_error_iff.mpr (Or.inl (h Depth.decode)))
  cases op with
  | fetchBook pair limit => exact hbook ..
  | updateBook pair limit => exact hbook ..
  | _ => exact hmap ..

end Operation

/-- The errors of an operation that ends before its request. -/
inductive VenueError.PrecedesRequest : VenueError → Prop
  | noCredentials (exchange : String) : PrecedesRequest (.noCredentials exchange)
  | authentication (reason : String) : PrecedesRequest (.authentication reason)
  | invalidParameters (reason : String) : PrecedesRequest (.invalidParameters reason)

theorem VenueError.PrecedesRequest.unclassed {e : VenueError} (h : e.PrecedesRequest) :
    e.isTransportError = false ∧ e.venueCode? = none := by
  cases h <;> exact ⟨rfl, rfl⟩

theorem Client.precedesRequest_of_buildRequest {c : Client} {method path : String}
    {params : Http.Params} {signed : Bool} {now : Int} {e : VenueError}
    (h : c.buildRequest method path params signed now = .error e) : e.PrecedesRequest := by
  cases signed with
  | false => exact nomatch h
  | true =>
    cases hsigner : c.signer with
    | none =>
      rw [buildRequest_of_signer_none c method path params hsigner] at h
      exact Except.error.inj h ▸ .noCredentials _
    | some signer =>
      rcases Int.lt_or_le now 0 with hnow | hnow
      · rw [buildRequest_before_epoch c method path params hsigner hnow] at h
        exact Except.error.inj h ▸ .authentication _
      · rw [buildRequest_of_signer_some c method path params hsigner hnow] at h
        exact nomatch h

theorem Operation.precedesRequest_of_refusal {op : Operation} {clock : Clock}
    {limiter : RateLimiter} {e : VenueError} (h : op.refusal? clock limiter = some (.error e)) :
    e.PrecedesRequest := by
  cases op with
  | postOrder order =>
    unfold refusal? Order.validate at h
    cases hcheck : order.check with
    | ok => simp [hcheck] at h
    | error incomplete =>
      simp only [hcheck, Option.some.injEq, Outcome.error.injEq] at h
      exact h ▸ .invalidParameters _
  | pollOpenOrders budget symbol =>
    simp only [refusal?] at h
    split at h <;> cases h
  | sendRateLimited budget method path params otherwise =>
    simp only [refusal?] at h
    split at h <;> cases h
  | _ => cases h

namespace Session

/-- An operation gets as far as sending a request. -/
def Sends (s : Session) (op : Operation) (clock : Clock) : Prop :=
  ∃ request, (s.run op clock).2.requests = s.requests ++ [request]

/-- An operation sends just if its own checks let it and its request can be built. -/
theorem sends_iff (s : Session) (op : Operation) (clock : Clock) :
    s.Sends op clock ↔ op.refusal? clock s.client.limiter = none ∧
      ∃ request, s.client.buildRequest op.call.method op.call.path op.call.params op.call.signed
        clock.unixMillis = .ok request := by
  simp only [Sends, run_requests_eq_concat_iff, exists_and_left]

variable {s : Session} {op : Operation} {clock : Clock} {e : VenueError}

/-- An operation that sends leaves it to the reply how it ends. -/
theorem run_of_sends (h : s.Sends op clock) :
    (s.run op clock).1 = op.answer clock s.nextReply := by
  obtain ⟨hrefusal, request, hbuilt⟩ := (s.sends_iff op clock).mp h
  rw [run_eq, hrefusal, hbuilt]

theorem precedesRequest_of_not_sends (h : ¬s.Sends op clock) (he : (s.run op clock).1 = .error e) :
    e.PrecedesRequest := by
  rw [sends_iff, not_and] at h
  rw [run_eq] at he
  cases hrefusal : op.refusal? clock s.client.limiter with
  | some outcome =>
    rw [hrefusal] at he
    obtain rfl : outcome = .error e := he
    exact Operation.precedesRequest_of_refusal hrefusal
  | none =>
    cases hbuild : s.client.buildRequest op.call.method op.call.path op.call.params op.call.signed
      clock.unixMillis with
    | ok request => exact absurd ⟨request, hbuild⟩ (h hrefusal)
    | error e' =>
      rw [hrefusal, hbuild] at he
      obtain rfl : e' = e := Outcome.error.inj he
      exact Client.precedesRequest_of_buildRequest hbuild

/-- An error that every decoder meets in the reply is the error of the operation. -/
theorem run_of_readReply_error (h : s.Sends op clock)
    (hreply : ∀ {α : Type} (decode : Decoder α), readReply decode s.nextReply = .error e) :
    (s.run op clock).1 = .error e := by
  rw [run_of_sends h, Operation.answer_of_error hreply]

theorem errs_of_run (h : (s.run op clock).1 = .error e) :
    e.PrecedesRequest ∨ s.Sends op clock ∧ s.nextReply.Errs e := by
  by_cases hsends : s.Sends op clock
  · exact Or.inr ⟨hsends, Operation.errs_of_answer ((run_of_sends hsends).symm.trans h)⟩
  · exact Or.inl (precedesRequest_of_not_sends hsends h)

theorem run_of_failure (h : s.Sends op clock) {reason : String}
    (hreply : s.nextReply = .failure reason) :
    (s.run op clock).1 = .error (.network reason) :=
  run_of_readReply_error h fun _ => hreply ▸ rfl

theorem run_of_httpFailure (h : s.Sends op clock) (hreply : s.nextReply = .httpFailure) :
    (s.run op clock).1 = .error .http :=
  run_of_readReply_error h fun _ => hreply ▸ rfl

variable (s op clock)

theorem run_transport_iff :
    (∃ e, (s.run op clock).1 = .error e ∧ e.isTransportError = true) ↔
      s.Sends op clock ∧
        (s.nextReply = .httpFailure ∨ ∃ reason, s.nextReply = .failure reason) := by
  constructor
  · rintro ⟨e, he, htransport⟩
    rcases errs_of_run he with hbefore | ⟨hsends, hreply⟩
    · exact nomatch hbefore.unclassed.1.symm.trans htransport
    · exact ⟨hsends, hreply.transport htransport⟩
  · rintro ⟨hsends, hreply | ⟨reason, hreply⟩⟩
    · exact ⟨_, run_of_httpFailure hsends hreply, rfl⟩
    · exact ⟨_, run_of_failure hsends hreply, rfl⟩

theorem run_venueCode_iff (code : Int32) :
    (∃ e, (s.run op clock).1 = .error e ∧ e.venueCode? = some code) ↔
      s.Sends op clock ∧ ∃ response text, s.nextReply = .response response ∧
        ¬(200 ≤ response.status ∧ response.status ≤ 299) ∧
        Rejection.IsIn ⟨code, text⟩ response.body := by
  constructor
  · rintro ⟨e, he, hcode⟩
    rcases errs_of_run he with hbefore | ⟨hsends, hreply⟩
    · exact nomatch hbefore.unclassed.2.symm.trans hcode
    · exact ⟨hsends, hreply.venueCode hcode⟩
  · rintro ⟨hsends, response, text, hreply, hstatus, hin⟩
    refine ⟨.rejected code text, run_of_readReply_error hsends fun decode => ?_, rfl⟩
    rw [hreply]
    exact Outcome.ofExcept_eq_error_iff.mpr
      (((response.classifies_decode decode).rejected code text).mpr ⟨hstatus, hin⟩)

/-- The status and the body of a response decide on what it is read as, whatever is expected of it.
So the error of an operation says that the transport failed, that the venue rejected the request or
that an answer could not be read, and never two of these. An operation sends just if its own checks
let it and its request can be built. A failure of the transport is then passed on as it is. A code
is the one in the venue's rejection, also where it tells that a clock is off. -/
theorem replies_classified :
    (∀ {α : Type} (decode : Decoder α) (r : Http.Response), r.Classifies decode (r.decode decode)) ∧
    ∀ (s : Session) (op : Operation) (clock : Clock),
      let outcome := (s.run op clock).1
      (∀ e, outcome = .error e →
        ¬(e.isDecodeError = true ∧ e.isTransportError = true) ∧
          ¬(e.isDecodeError = true ∧ e.venueCode?.isSome = true) ∧
          ¬(e.isTransportError = true ∧ e.venueCode?.isSome = true)) ∧
      (s.Sends op clock ↔ op.refusal? clock s.client.limiter = none ∧
        ∃ request, s.client.buildRequest op.call.method op.call.path op.call.params op.call.signed
          clock.unixMillis = .ok request) ∧
      (s.Sends op clock →
        (∀ reason, s.nextReply = .failure reason → outcome = .error (.network reason)) ∧
        (s.nextReply = .httpFailure → outcome = .error .http)) ∧
      ((∃ e, outcome = .error e ∧ e.isTransportError = true) ↔ s.Sends op clock ∧
        (s.nextReply = .httpFailure ∨ ∃ reason, s.nextReply = .failure reason)) ∧
      (∀ code, (∃ e, outcome = .error e ∧ e.venueCode? = some code) ↔ s.Sends op clock ∧
        ∃ response text, s.nextReply = .response response ∧
          ¬(200 ≤ response.status ∧ response.status ≤ 299) ∧
          Rejection.IsIn ⟨code, text⟩ response.body) ∧
      ((∃ e, outcome = .error e ∧ e.isClockSkew = true) ↔ s.Sends op clock ∧
        ∃ response text, s.nextReply = .response response ∧
          ¬(200 ≤ response.status ∧ response.status ≤ 299) ∧
          Rejection.IsIn ⟨-1021, text⟩ response.body) := by
  refine ⟨fun decode r => r.classifies_decode decode, fun s op clock => ⟨?_, ?_, ?_, ?_, ?_, ?_⟩⟩
  · exact fun e _ => e.classes_exclusive
  · exact s.sends_iff op clock
  · exact fun hsends => ⟨fun _ => run_of_failure hsends, run_of_httpFailure hsends⟩
  · exact run_transport_iff s op clock
  · exact run_venueCode_iff s op clock
  · simp only [VenueError.isClockSkew_iff]
    exact run_venueCode_iff s op clock (-1021)

end Session

end MarketDesk

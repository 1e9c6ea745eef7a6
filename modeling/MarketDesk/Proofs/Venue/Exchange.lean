import MarketDesk.Proofs.Book.FlatBooks
import MarketDesk.Proofs.Venue.Request
import MarketDesk.Proofs.Venue.SessionStep

/-!
# What an operation does

An operation first makes checks of its own, which may end it. Then its request is built, which takes
keys if it is signed, and goes out. The reply alone decides on the answer, on the symbols that the
client learns and on the books that are stored. `Session.run_eq` says this of every operation; what
a session keeps, sends and answers is read off from it.
-/

namespace MarketDesk

theorem BookStore.get_upsert_self (s : BookStore) (u : Upsert) :
    (s.upsert u.pair u.bookType u.snapshot u.now).get u.pair u.bookType = .ok u.entry := by
  refine get_of_book? ((s.book?_upsert u u.pair.canonical u.bookType).trans ?_)
  rw [if_pos ⟨rfl, rfl⟩]

namespace Session

def readBook (pair : CurrencyPair) (clock : Clock) (reply : Reply) : Outcome Snapshot :=
  (readReply Depth.decode reply).bind fun d => .ofExcept (d.toSnapshot pair clock.arrival)

end Session

namespace Operation

open Session

/-- The end of an operation that does not get past its own checks. -/
def refusal? (op : Operation) (clock : Clock) (limiter : RateLimiter) : Option (Outcome Answer) :=
  match op with
  | postOrder order =>
      match order.validate with
      | .ok () => none
      | .error e => some (.error e)
  | pollOpenOrders budget _ =>
      if limiter.admits ⟨Client.endpoint "GET" Venue.openOrdersPath, budget, clock.monotonic⟩ then
        none
      else some (.ok (.reports []))
  | sendRateLimited budget method path _ otherwise =>
      if limiter.admits ⟨Client.endpoint method path, budget, clock.monotonic⟩ then none
      else some (.ok (.value otherwise))
  | _ => none

theorem refusal?_eq_none_iff (op : Operation) (clock : Clock) (limiter : RateLimiter) :
    op.refusal? clock limiter = none ↔
      (∀ order, op = .postOrder order → order.validate = .ok ()) ∧
        ∀ call, op.limitedCall? clock = some call → limiter.admits call = true := by
  cases op with
  | postOrder order =>
    cases hv : order.validate with
    | ok => simp [refusal?, limitedCall?, hv]
    | error e => simp [refusal?, limitedCall?, hv]
  | pollOpenOrders budget symbol => simp [refusal?, limitedCall?]
  | sendRateLimited budget method path params otherwise => simp [refusal?, limitedCall?]
  | _ => simp [refusal?, limitedCall?]

/-- What an operation makes of the reply to its request. -/
def answer (op : Operation) (clock : Clock) (reply : Reply) : Outcome Answer :=
  match op with
  | fetchInstruments => (readReply Instruments.decode reply).map .instruments
  | loadInstruments => (readReply Instruments.decode reply).map fun i => .count i.entries.length
  | fetchDepth _ _ => (readReply Depth.decode reply).map .depth
  | fetchBook pair _ => (readBook pair clock reply).map .book
  | updateBook pair _ => (readBook pair clock reply).map fun s =>
      .book { s with pair := pair.canonical, lastUpdated := clock.storage }
  | fetchAccount => (readReply Account.decode reply).map .account
  | postOrder _ => (readReply Receipt.decode reply).map .receipt
  | fetchOrder _ _ => (readReply OrderReport.decode reply).map .report
  | cancelOrder _ _ => (readReply Cancellation.decode reply).map .cancellation
  | fetchOpenOrders _ | pollOpenOrders _ _ =>
      (readReply OrderReport.decodeAll reply).map .reports
  | send _ _ _ _ | sendRateLimited _ _ _ _ _ => (readReply Json.Value.decode reply).map .value

/-- The symbols known after a reply. -/
def symbols (op : Operation) (reply : Reply) (known : SymbolMap) : SymbolMap :=
  match op, readReply Instruments.decode reply with
  | loadInstruments, .ok instruments => .ofEntries instruments.entries
  | _, _ => known

/-- The books stored after a reply. -/
def books (op : Operation) (clock : Clock) (reply : Reply) (store : BookStore) : BookStore :=
  match op with
  | updateBook pair _ =>
      match readBook pair clock reply with
      | .ok snapshot => store.upsert pair BookStore.spot snapshot clock.storage
      | _ => store
  | _ => store

theorem refusal?_of_unsigned (op : Operation) (h : op.call.signed = false) (clock : Clock)
    (limiter : RateLimiter) : op.refusal? clock limiter = none := by
  cases op <;> first | rfl | exact nomatch h

theorem limitedCall?_of_unsigned (op : Operation) (h : op.call.signed = false) (clock : Clock) :
    op.limitedCall? clock = none := by
  cases op <;> first | rfl | exact nomatch h

theorem symbols_of_signed (op : Operation) (h : op.call.signed = true) (reply : Reply)
    (known : SymbolMap) : op.symbols reply known = known := by
  cases op <;> first | rfl | exact nomatch h

theorem books_of_signed (op : Operation) (h : op.call.signed = true) (clock : Clock) (reply : Reply)
    (store : BookStore) : op.books clock reply store = store := by
  cases op <;> first | rfl | exact nomatch h

end Operation

namespace Session

variable {α : Type} (op : Operation) (clock : Clock) (s : Session)

/-- The session once the limiter has seen an operation. -/
def counted : Session :=
  s.withLimiter (s.client.limiter.acquireAll (op.limitedCall? clock).toList)

/-- The session once an operation has read its reply. -/
def learned (reply : Reply) : Session :=
  { s with
    client := { s.client with symbols := op.symbols reply s.client.symbols }
    store := op.books clock reply s.store }

theorem answerWith_send (f : α → Answer) (decode : Decoder α) (method path : String)
    (params : Http.Params) (signed : Bool) :
    answerWith f (s.send decode method path params signed clock) =
      match s.client.buildRequest method path params signed clock.unixMillis with
      | .error e => (.error e, s)
      | .ok request => ((readReply decode s.nextReply).map f, s.sent request) := by
  unfold send
  cases s.client.buildRequest method path params signed clock.unixMillis with
  | error e => rfl
  | ok request => rfl

theorem answerWith_sendRateLimited (f : α → Answer) (decode : Decoder α) (budget : Nat)
    (method path : String) (params : Http.Params) (otherwise : α) :
    let call : RateLimiter.Call := ⟨Client.endpoint method path, budget, clock.monotonic⟩
    let counted := s.withLimiter (s.client.limiter.after call)
    answerWith f (s.sendRateLimited decode budget method path params otherwise clock) =
      if s.client.limiter.admits call then
        match s.client.buildRequest method path params true clock.unixMillis with
        | .error e => (.error e, counted)
        | .ok request => ((readReply decode s.nextReply).map f, counted.sent request)
      else (.ok (f otherwise), counted) := by
  intro call counted
  cases h : s.client.limiter.admits call with
  | false => rw [sendRateLimited_of_refused _ _ _ _ _ _ _ _ h]; rfl
  | true =>
    have hsend := s.answerWith_send clock f decode method path params true
    rw [sendRateLimited_of_admitted _ _ _ _ _ _ _ _ h, if_pos rfl]
    unfold answerWith at hsend ⊢
    rw [Prod.mk.injEq] at hsend
    dsimp only
    rw [hsend.1, hsend.2]
    split <;> rfl

/-- Checks, request and reply of an operation, and what is left of them. -/
theorem run_eq :
    s.run op clock =
      match op.refusal? clock s.client.limiter with
      | some outcome => (outcome, s.counted op clock)
      | none =>
        match s.client.buildRequest op.call.method op.call.path op.call.params op.call.signed
            clock.unixMillis with
        | .error e => (.error e, s.counted op clock)
        | .ok request =>
            (op.answer clock s.nextReply,
              ((s.counted op clock).sent request).learned op clock s.nextReply) := by
  cases op with
  | loadInstruments =>
    have hfetch : s.fetchInstruments clock =
        (readReply Instruments.decode s.nextReply, (s.fetchInstruments clock).2) := rfl
    change answerWith .count (s.loadInstruments clock) = _
    rw [loadInstruments, hfetch]
    simp only [learned, Operation.answer, Operation.symbols]
    cases readReply Instruments.decode s.nextReply with
    | ok instruments => rfl
    | error e => rfl
    | cancelled => rfl
  | fetchBook pair limit => rfl
  | updateBook pair limit =>
    have hfetch : s.fetchBook pair limit clock =
        (readBook pair clock s.nextReply, (s.fetchBook pair limit clock).2) := rfl
    change answerWith .book (s.updateBook pair limit clock) = _
    rw [updateBook, hfetch]
    simp only [learned, Operation.answer, Operation.books]
    cases readBook pair clock s.nextReply with
    | ok snapshot =>
      have hget := (s.fetchBook pair limit clock).2.store.get_upsert_self
        ⟨pair, BookStore.spot, snapshot, clock.storage⟩
      dsimp only at hget
      dsimp only
      rw [hget]
      rfl
    | error e => rfl
    | cancelled => rfl
  | postOrder order =>
    have hrefusal : (Operation.postOrder order).refusal? clock s.client.limiter =
        match order.validate with
        | .ok () => none
        | .error e => some (.error e) := rfl
    change answerWith .receipt (s.postOrder order clock) = _
    rw [hrefusal, postOrder]
    cases order.validate with
    | error e => rfl
    | ok => exact answerWith_send ..
  | pollOpenOrders budget symbol =>
    refine (answerWith_sendRateLimited clock s .reports OrderReport.decodeAll budget "GET"
      Venue.openOrdersPath (openOrdersParams symbol) []).trans ?_
    simp only [Operation.refusal?]
    split <;> rfl
  | sendRateLimited budget method path params otherwise =>
    refine (answerWith_sendRateLimited clock s .value Json.Value.decode budget method path params
      otherwise).trans ?_
    simp only [Operation.refusal?]
    split <;> rfl
  | _ => exact answerWith_send ..

/-- An operation sends the request that was built for it, or none. -/
theorem run_requests :
    (s.run op clock).2.requests = s.requests ∨
      ∃ request, s.client.buildRequest op.call.method op.call.path op.call.params op.call.signed
          clock.unixMillis = .ok request ∧
        (s.run op clock).2.requests = s.requests ++ [request] := by
  rw [run_eq]
  cases op.refusal? clock s.client.limiter with
  | some outcome => exact Or.inl rfl
  | none =>
    cases s.client.buildRequest op.call.method op.call.path op.call.params op.call.signed
      clock.unixMillis with
    | error e => exact Or.inl rfl
    | ok request => exact Or.inr ⟨request, rfl, rfl⟩

/-- An operation sends a request just if its own checks let it and this request was built. -/
theorem run_requests_eq_concat_iff (request : Http.Request) :
    (s.run op clock).2.requests = s.requests ++ [request] ↔
      op.refusal? clock s.client.limiter = none ∧
        s.client.buildRequest op.call.method op.call.path op.call.params op.call.signed
          clock.unixMillis = .ok request := by
  have hnone : s.requests ≠ s.requests ++ [request] := by simp
  rw [run_eq]
  cases op.refusal? clock s.client.limiter with
  | some outcome => exact iff_of_false hnone nofun
  | none =>
    cases s.client.buildRequest op.call.method op.call.path op.call.params op.call.signed
      clock.unixMillis with
    | error e => exact iff_of_false hnone nofun
    | ok sent =>
      change s.requests ++ [sent] = s.requests ++ [request] ↔ _
      rw [List.append_cancel_left_eq, List.singleton_inj, Except.ok.injEq, and_iff_right rfl]

variable {op}

theorem run_of_unsigned (h : op.call.signed = false) :
    s.run op clock = (op.answer clock s.nextReply,
      (s.sent (s.client.place op.call.method op.call.path
        (Client.payload none op.call.params.encode clock.unixMillis))).learned op clock
          s.nextReply) := by
  have hcounted : s.counted op clock = s := by
    rw [counted, op.limitedCall?_of_unsigned h]
    rfl
  rw [run_eq, op.refusal?_of_unsigned h, h, Client.buildRequest_unsigned, hcounted]

variable (op)

/-- Of a client, an operation changes what the limiter has counted and the symbols. -/
theorem run_client :
    (s.run op clock).2.client =
      { s.client with
        limiter := s.client.limiter.acquireAll (op.limitedCall? clock).toList
        symbols := op.symbols s.nextReply s.client.symbols } := by
  cases h : op.call.signed with
  | false =>
    rw [run_of_unsigned clock s h, op.limitedCall?_of_unsigned h]
    rfl
  | true =>
    rw [op.symbols_of_signed h, run_eq]
    split
    · rfl
    · split
      · rfl
      · rw [learned, op.symbols_of_signed h]
        rfl

theorem run_baseUrl : (s.run op clock).2.client.baseUrl = s.client.baseUrl := by
  rw [run_client]

theorem run_signer : (s.run op clock).2.client.signer = s.client.signer := by
  rw [run_client]

/-- An operation leaves the limiter as its call on the limiter leaves it, and else as it was. -/
theorem run_limiter :
    (s.run op clock).2.client.limiter =
      s.client.limiter.acquireAll (op.limitedCall? clock).toList := by
  rw [run_client]

theorem run_symbols :
    (s.run op clock).2.client.symbols = op.symbols s.nextReply s.client.symbols := by
  rw [run_client]

theorem run_store : (s.run op clock).2.store = op.books clock s.nextReply s.store := by
  cases h : op.call.signed with
  | false => rw [run_of_unsigned clock s h]; rfl
  | true =>
    rw [op.books_of_signed h, run_eq]
    split
    · rfl
    · split
      · rfl
      · exact op.books_of_signed h ..

end Session

end MarketDesk

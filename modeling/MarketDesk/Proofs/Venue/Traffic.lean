import MarketDesk.Proofs.Venue.Exchange

/-!
# The traffic of a session

Each operation of a session is a turn, and a turn that passes the checks made before a request
exchanges one request for one reply; any other sends nothing and takes no reply. So the log has one
request for each passing turn, in their order, and the turn that sends the request number `k` gets
the reply number `k` of the script.
-/

namespace MarketDesk

namespace Session

/-- Whether an operation passes the checks that are made before its request: those of its own, and
that there are keys if it is signed. -/
def passes (s : Session) (op : Operation) (clock : Clock) : Bool :=
  (op.refusal? clock s.client.limiter).isNone && (!op.call.signed || s.client.hasCredentials)

theorem passes_iff (s : Session) (op : Operation) (clock : Clock) :
    s.passes op clock = true ↔
      (∀ order, op = .postOrder order → order.validate = .ok ()) ∧
        (∀ call, op.limitedCall? clock = some call → s.client.limiter.admits call = true) ∧
        (op.call.signed = true → s.client.hasCredentials = true) := by
  rw [passes, Bool.and_eq_true, Option.isNone_iff_eq_none, Operation.refusal?_eq_none_iff,
    and_assoc]
  cases op.call.signed <;> simp

/-- An operation that is held back leaves the log and the replies alone, and no reply shows in its
outcome. -/
theorem run_of_held {s : Session} {op : Operation} {clock : Clock}
    (h : s.passes op clock = false) :
    ∃ outcome, ∀ s' : Session, s'.client = s.client →
      s'.run op clock = (outcome, s'.counted op clock) := by
  unfold passes at h
  cases hrefusal : op.refusal? clock s.client.limiter with
  | some outcome =>
    refine ⟨outcome, fun s' hclient => ?_⟩
    rw [run_eq, hclient, hrefusal]
  | none =>
    rw [hrefusal, Option.isNone_none, Bool.true_and, Bool.or_eq_false_iff, Bool.not_eq_false'] at h
    have hnone : s.client.signer = none :=
      Option.isNone_iff_eq_none.mp (Option.isSome_eq_false_iff.mp h.2)
    refine ⟨.error (.noCredentials Venue.exchangeName), fun s' hclient => ?_⟩
    rw [run_eq, hclient, hrefusal, h.1, Client.buildRequest_of_signer_none _ _ _ _ hnone]

/-- An operation that passes exchanges a request for the next reply. -/
theorem run_of_passes {s : Session} {op : Operation} {clock : Clock}
    (h : s.passes op clock = true) (hclock : 0 ≤ clock.unixMillis) :
    ∃ request, s.client.buildRequest op.call.method op.call.path op.call.params op.call.signed
        clock.unixMillis = .ok request ∧
      s.run op clock = (op.answer clock s.nextReply,
        ((s.counted op clock).sent request).learned op clock s.nextReply) := by
  unfold passes at h
  rw [Bool.and_eq_true, Option.isNone_iff_eq_none] at h
  obtain ⟨hrefusal, hkeys⟩ := h
  have hbuild : ∃ request, s.client.buildRequest op.call.method op.call.path op.call.params
      op.call.signed clock.unixMillis = .ok request := by
    cases hsigned : op.call.signed with
    | false => exact ⟨_, Client.buildRequest_unsigned ..⟩
    | true =>
      rw [hsigned, Bool.not_true, Bool.false_or] at hkeys
      obtain ⟨signer, hsigner⟩ := Option.isSome_iff_exists.mp hkeys
      exact ⟨_, Client.buildRequest_of_signer_some _ _ _ _ hsigner hclock⟩
  obtain ⟨request, hrequest⟩ := hbuild
  refine ⟨request, hrequest, ?_⟩
  rw [run_eq, hrefusal, hrequest]

end Session

/-- An operation with the clocks that it runs under and the session that it finds. -/
structure Turn where
  session : Session
  op : Operation
  clock : Clock

namespace Turn

def passes (t : Turn) : Bool := t.session.passes t.op t.clock

def outcome (t : Turn) : Outcome Answer := (t.session.run t.op t.clock).1

def after (t : Turn) : Session := (t.session.run t.op t.clock).2

/-- A turn that sends a request, which was built for it and goes to the path of its operation, and
whose outcome is what its operation makes of a reply. -/
structure Exchanges (t : Turn) (request : Http.Request) (reply : Reply) : Prop where
  built : t.session.client.buildRequest t.op.call.method t.op.call.path t.op.call.params
    t.op.call.signed t.clock.unixMillis = .ok request
  requests : t.after.requests = t.session.requests ++ [request]
  replies : t.after.replies = t.session.replies.tail
  outcome : t.outcome = t.op.answer t.clock reply

/-- A turn that sends nothing and takes no reply, and whose outcome is the same whatever the replies
are. -/
structure Held (t : Turn) : Prop where
  requests : t.after.requests = t.session.requests
  replies : t.after.replies = t.session.replies
  outcome : ∀ replies, ({ t.session with replies }.run t.op t.clock).1 = t.outcome

theorem held_of_passes_eq_false {t : Turn} (h : t.passes = false) : t.Held := by
  obtain ⟨outcome, hrun⟩ := Session.run_of_held h
  have hself := hrun t.session rfl
  exact {
    requests := congrArg (·.2.requests) hself
    replies := congrArg (·.2.replies) hself
    outcome := fun replies => by
      rw [hrun { t.session with replies } rfl]
      exact (congrArg Prod.fst hself).symm }

theorem exchanges_of_passes {t : Turn} (h : t.passes = true) (hclock : 0 ≤ t.clock.unixMillis) :
    ∃ request, t.Exchanges request t.session.nextReply := by
  obtain ⟨request, hbuilt, hrun⟩ := Session.run_of_passes h hclock
  exact ⟨request, {
    built := hbuilt
    requests := congrArg (·.2.requests) hrun
    replies := congrArg (·.2.replies) hrun
    outcome := congrArg Prod.fst hrun }⟩

end Turn

namespace Session

/-- The turns of a run, each with the session as the turns before have left it. -/
def turns (s : Session) : List (Operation × Clock) → List Turn
  | [] => []
  | (op, clock) :: rest => ⟨s, op, clock⟩ :: (s.run op clock).2.turns rest

theorem runAll_outcomes (s : Session) (ops : List (Operation × Clock)) :
    (s.runAll ops).1 = (s.turns ops).map Turn.outcome := by
  induction ops generalizing s with
  | nil => rfl
  | cons e rest ih =>
    obtain ⟨op, clock⟩ := e
    exact congrArg ((s.run op clock).1 :: ·) (ih (s.run op clock).2)

/-- The reply that a script has for the request of a number. -/
def replyAt (script : List Reply) (k : Nat) : Reply :=
  script[k]?.getD (.response ⟨200, "\x7b\x7d"⟩)

theorem nextReply_eq (s : Session) : s.nextReply = replyAt s.replies 0 := by
  rw [nextReply, replyAt, List.head?_eq_getElem?]

theorem replyAt_tail (script : List Reply) (k : Nat) :
    replyAt script.tail k = replyAt script (k + 1) := by
  rw [replyAt, replyAt, List.getElem?_tail]

theorem runAll_traffic (s : Session) {ops : List (Operation × Clock)}
    (hclock : ∀ e ∈ ops, 0 ≤ e.2.unixMillis) :
    ∃ log, (s.runAll ops).2.requests = s.requests ++ log ∧
      (s.runAll ops).2.replies = s.replies.drop log.length ∧
      ((s.turns ops).filter Turn.passes).length = log.length ∧
      ∀ (k : Nat) (t : Turn) (request : Http.Request),
        ((s.turns ops).filter Turn.passes)[k]? = some t → log[k]? = some request →
        t.Exchanges request (replyAt s.replies k) := by
  induction ops generalizing s with
  | nil =>
    refine ⟨[], (List.append_nil _).symm, rfl, rfl, fun k t request ht => ?_⟩
    exact nomatch List.mem_of_getElem? ht
  | cons e rest ih =>
    obtain ⟨op, clock⟩ := e
    let turn : Turn := ⟨s, op, clock⟩
    obtain ⟨log, hrequests, hreplies, hlength, hexchanges⟩ :=
      ih turn.after fun e he => hclock e (List.mem_cons_of_mem _ he)
    have hturns : s.turns ((op, clock) :: rest) = turn :: turn.after.turns rest := rfl
    have hrun : (s.runAll ((op, clock) :: rest)).2 = (turn.after.runAll rest).2 := rfl
    rw [hturns, hrun, List.filter_cons]
    cases hp : turn.passes with
    | false =>
      have hheld := Turn.held_of_passes_eq_false hp
      rw [hheld.requests] at hrequests
      rw [hheld.replies] at hreplies hexchanges
      exact ⟨log, hrequests, hreplies, hlength, hexchanges⟩
    | true =>
      obtain ⟨request, hfirst⟩ :=
        Turn.exchanges_of_passes hp (hclock (op, clock) List.mem_cons_self)
      rw [hfirst.requests, List.append_assoc] at hrequests
      rw [hfirst.replies] at hreplies hexchanges
      rw [if_pos rfl]
      refine ⟨request :: log, hrequests, ?_, congrArg Nat.succ hlength, ?_⟩
      · rw [hreplies, List.length_cons, List.drop_tail]
      · intro k t r ht hr
        cases k with
        | zero =>
          rw [List.getElem?_cons_zero, Option.some.injEq] at ht hr
          rw [← ht, ← hr, ← nextReply_eq]
          exact hfirst
        | succ k =>
          rw [List.getElem?_cons_succ] at ht hr
          rw [← replyAt_tail]
          exact hexchanges k t r ht hr

theorem client_of_mem_turns {s : Session} {ops : List (Operation × Clock)} {t : Turn}
    (h : t ∈ s.turns ops) :
    t.session.client.baseUrl = s.client.baseUrl ∧ t.session.client.signer = s.client.signer := by
  induction ops generalizing s with
  | nil => exact nomatch h
  | cons e rest ih =>
    obtain ⟨op, clock⟩ := e
    rcases List.mem_cons.mp h with rfl | hrest
    · exact ⟨rfl, rfl⟩
    · obtain ⟨hbase, hsigner⟩ := ih hrest
      exact ⟨hbase.trans (run_baseUrl op clock s), hsigner.trans (run_signer op clock s)⟩

theorem map_turns (s : Session) (ops : List (Operation × Clock)) :
    (s.turns ops).map (fun t => (t.op, t.clock)) = ops := by
  induction ops generalizing s with
  | nil => rfl
  | cons e rest ih => exact congrArg (e :: ·) (ih (s.run e.1 e.2).2)

end Session

theorem Credentials.complete_iff (c : Credentials) :
    c.complete = true ↔ c.apiKey ≠ "" ∧ c.secretKey ≠ "" := by
  rw [complete, Bool.and_eq_true, Bool.not_eq_true', Bool.not_eq_true', ← Bool.not_eq_true,
    ← Bool.not_eq_true, String.isEmpty_iff, String.isEmpty_iff]

theorem Client.hasCredentials_ofSettings (settings : Settings) :
    (ofSettings settings).hasCredentials = settings.credentials.complete := by
  unfold hasCredentials ofSettings Settings.hasCredentials
  cases settings.credentials.complete <;> rfl

theorem Turn.Exchanges.address {t : Turn} {request : Http.Request} {reply : Reply}
    (h : t.Exchanges request reply) :
    (t.session.client.baseUrl ++ t.op.call.path).toList <+: request.url.toList := by
  obtain ⟨signer, hrequest, -⟩ := Client.eq_place_of_buildRequest h.built
  rw [hrequest]
  exact Client.address_prefix_url ..

namespace Session

/-- A session from its settings on, with a script of replies and clocks not before the epoch. An
operation passes if an order is complete, a budget admits the call and a signed call has both keys;
one that does not pass sends nothing and takes no reply. The log has one request for each passing
operation in their order, under the resolved address and the path of the operation, and the one that
sends the request number `k` gets the reply number `k` and no other. -/
theorem traffic_of_settings (settings : Settings) (script : List Reply)
    (ops : List (Operation × Clock)) (hclock : ∀ e ∈ ops, 0 ≤ e.2.unixMillis) :
    let start := (ofClient (.ofSettings settings)).addReplies script
    let turns := start.turns ops
    let sending := turns.filter Turn.passes
    let log := (start.runAll ops).2.requests
    turns.map (fun t => (t.op, t.clock)) = ops ∧
      (start.runAll ops).1 = turns.map Turn.outcome ∧
      (∀ t ∈ turns,
        (t.passes = true ↔
          (∀ order, t.op = .postOrder order → order.validate = .ok ()) ∧
            (∀ call, t.op.limitedCall? t.clock = some call →
              t.session.client.limiter.admits call = true) ∧
            (t.op.call.signed = true →
              settings.credentials.apiKey ≠ "" ∧ settings.credentials.secretKey ≠ "")) ∧
        (t.passes = false → t.Held)) ∧
      sending.length = log.length ∧
      (start.runAll ops).2.replies = script.drop log.length ∧
      (∀ (k : Nat) (t : Turn) (request : Http.Request),
        sending[k]? = some t → log[k]? = some request →
          t.Exchanges request (replyAt script k) ∧
            (Client.resolveUrl settings ++ t.op.call.path).toList <+: request.url.toList) ∧
      (settings.testnet = true → ∀ request ∈ log,
        Venue.testnetUrl.toList <+: request.url.toList) := by
  intro start turns sending log
  obtain ⟨sent, hrequests, hreplies, hlength, hexchanges⟩ := start.runAll_traffic hclock
  obtain rfl : log = sent := hrequests
  have hclient : ∀ t ∈ turns, t.session.client.baseUrl = Client.resolveUrl settings ∧
      t.session.client.signer = (Client.ofSettings settings).signer := fun t ht =>
    client_of_mem_turns ht
  have haddress (k : Nat) (t : Turn) (request : Http.Request) (ht : sending[k]? = some t)
      (hr : log[k]? = some request) :
      (Client.resolveUrl settings ++ t.op.call.path).toList <+: request.url.toList := by
    have hturn : t ∈ turns := (List.mem_filter.mp (List.mem_of_getElem? ht)).1
    rw [← (hclient t hturn).1]
    exact (hexchanges k t request ht hr).address
  refine ⟨start.map_turns ops, start.runAll_outcomes ops, ?_, hlength, hreplies, ?_, ?_⟩
  · intro t ht
    refine ⟨?_, Turn.held_of_passes_eq_false⟩
    have hkeys : t.session.client.hasCredentials = settings.credentials.complete := by
      rw [← Client.hasCredentials_ofSettings, Client.hasCredentials, (hclient t ht).2]
      rfl
    rw [Turn.passes, passes_iff, hkeys, Credentials.complete_iff]
  · intro k t request ht hr
    exact ⟨hexchanges k t request ht hr, haddress k t request ht hr⟩
  · intro htestnet request hr
    have hurl : Client.resolveUrl settings = Venue.testnetUrl := if_pos htestnet
    obtain ⟨k, hk, hkr⟩ := List.mem_iff_getElem.mp hr
    have hsending : k < sending.length := hlength ▸ hk
    have hprefix := haddress k sending[k] request (List.getElem?_eq_getElem hsending)
      (List.getElem?_eq_some_iff.mpr ⟨hk, hkr⟩)
    rw [hurl, String.toList_append] at hprefix
    exact (List.prefix_append _ _).trans hprefix

theorem traffic_of_settings_testnet :
    let settings : Settings := { Settings.ofCredentials ⟨"key", "secret"⟩ with
      testnet := true, baseUrl := some "http://localhost" }
    let clock : Clock := ⟨0, 7, .epoch, .epoch⟩
    let order : Order := ⟨"ETHBTC", .sell, .market, none, .zero, none, none, none, none, false⟩
    let ops : List (Operation × Clock) :=
      [(.postOrder order, clock), (.pollOpenOrders 1 none, clock), (.pollOpenOrders 1 none, clock),
        (.fetchAccount, clock)]
    let script : List Reply := [.failure "down", .hang, .hang]
    let start := (ofClient (.ofSettings settings)).addReplies script
    let log := (start.runAll ops).2.requests
    (∀ e ∈ ops, 0 ≤ e.2.unixMillis) ∧ log.length = 2 ∧
      (start.runAll ops).2.replies = script.drop log.length ∧
      ∀ request ∈ log, Venue.testnetUrl.toList <+: request.url.toList := by
  intro settings clock order ops script start log
  have hclock : ∀ e ∈ ops, 0 ≤ e.2.unixMillis := by decide
  have hsending : ((start.turns ops).filter Turn.passes).length = 2 := by decide
  obtain ⟨-, -, -, hlength, hreplies, -, htestnet⟩ :=
    traffic_of_settings settings script ops hclock
  exact ⟨hclock, hlength.symm.trans hsending, hreplies, htestnet rfl⟩

end Session

end MarketDesk

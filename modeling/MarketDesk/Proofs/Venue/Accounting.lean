import MarketDesk.Proofs.Venue.Exchange

/-!
# Call budgets over a session

Which operations of a session use up call budgets, and what becomes of a call under a budget. The
limiter after a session is the limiter after the calls of its rate-limited operations alone, so
neither other operations nor the fate of a request show in it. No standard method begins another, so
the name under which an endpoint's calls are counted gives back method and path.
-/

namespace MarketDesk

namespace Http

def standardMethods : List String :=
  ["GET", "HEAD", "POST", "PUT", "DELETE", "CONNECT", "OPTIONS", "TRACE", "PATCH"]

theorem eq_of_prefix_of_standard : ∀ m ∈ standardMethods, ∀ m' ∈ standardMethods,
    m.toList <+: m'.toList → m = m' := by decide

end Http

namespace Client

theorem endpoint_eq_iff {m m' : String} (hm : m ∈ Http.standardMethods)
    (hm' : m' ∈ Http.standardMethods) (p p' : String) :
    endpoint m p = endpoint m' p' ↔ m = m' ∧ p = p' := by
  constructor
  · intro h
    have hlist : m.toList ++ p.toList = m'.toList ++ p'.toList := by
      simpa only [endpoint, String.toList_append] using congrArg String.toList h
    have hmm : m = m' := by
      rcases List.prefix_or_prefix_of_prefix (List.prefix_append m.toList p.toList)
        (hlist ▸ List.prefix_append m'.toList p'.toList) with hpre | hpre
      · exact Http.eq_of_prefix_of_standard m hm m' hm' hpre
      · exact (Http.eq_of_prefix_of_standard m' hm' m hm hpre).symm
    subst hmm
    exact ⟨rfl, String.toList_inj.mp (List.append_cancel_left hlist)⟩
  · rintro ⟨rfl, rfl⟩
    rfl

end Client

namespace Session

def limitedCalls (ops : List (Operation × Clock)) : List RateLimiter.Call :=
  ops.flatMap fun e => (e.1.limitedCall? e.2).toList

theorem runAll_cons (s : Session) (op : Operation) (clock : Clock)
    (ops : List (Operation × Clock)) :
    (s.runAll ((op, clock) :: ops)).2 = ((s.run op clock).2.runAll ops).2 := rfl

theorem runAll_limiter (s : Session) (ops : List (Operation × Clock)) :
    (s.runAll ops).2.client.limiter = s.client.limiter.acquireAll (limitedCalls ops) := by
  induction ops generalizing s with
  | nil => rfl
  | cons e rest ih =>
    obtain ⟨op, clock⟩ := e
    rw [runAll_cons, ih, run_limiter, ← RateLimiter.acquireAll_append]
    rfl

/-- A slot used at one endpoint shows at another one exactly if it is the same. -/
theorem spent_shows_iff {m m' : String} (hm : m ∈ Http.standardMethods)
    (hm' : m' ∈ Http.standardMethods) {p p' : String} {l l' : RateLimiter} {now : Nat}
    (h : l.Spent l' (Client.endpoint m p) now) :
    l'.window? (Client.endpoint m' p') ≠ l.window? (Client.endpoint m' p') ↔ m' = m ∧ p' = p := by
  rw [← Client.endpoint_eq_iff hm' hm]
  constructor
  · intro hne
    by_cases heq : Client.endpoint m' p' = Client.endpoint m p
    · exact heq
    · exact absurd (h.others _ heq) hne
  · intro heq
    rw [heq]
    exact h.window?_ne

/-- Wherever a session stands, its limiter has seen the calls under a budget and nothing else. A
call that the limiter refuses gives the value that stands for no news and leaves requests and
replies as they are; one that it admits has used one slot of its endpoint, and is for the rest the
signed call that it would be without a budget, however that ends. -/
theorem rateLimited_accounting (start : Session) (before : List (Operation × Clock)) :
    let s := (start.runAll before).2
    s.client.limiter = start.client.limiter.acquireAll (limitedCalls before) ∧
      (∀ (op : Operation) (clock : Clock), op.limitedCall? clock = none →
        (s.run op clock).2.client.limiter = s.client.limiter) ∧
      (∀ {α : Type} (decode : Decoder α) (budget : Nat) (method path : String)
        (params : Http.Params) (otherwise : α) (clock : Clock),
        let call : RateLimiter.Call := ⟨Client.endpoint method path, budget, clock.monotonic⟩
        let limited := s.sendRateLimited decode budget method path params otherwise clock
        let sent := s.send decode method path params true clock
        (s.client.limiter.admits call = false →
          limited = (.ok otherwise, s.withLimiter (s.client.limiter.after call)) ∧
            limited.2.requests = s.requests ∧ limited.2.replies = s.replies) ∧
        (s.client.limiter.admits call = true →
          limited = (sent.1, sent.2.withLimiter (s.client.limiter.after call)) ∧
            limited.2.requests = sent.2.requests ∧ limited.2.replies = sent.2.replies ∧
            s.client.limiter.Spent limited.2.client.limiter call.key clock.monotonic)) ∧
      (∀ m ∈ Http.standardMethods, ∀ m' ∈ Http.standardMethods, ∀ p p' l l' now,
        RateLimiter.Spent l l' (Client.endpoint m p) now →
          (l'.window? (Client.endpoint m' p') ≠ l.window? (Client.endpoint m' p') ↔
            m' = m ∧ p' = p)) := by
  intro s
  refine ⟨runAll_limiter start before, ?_, ?_, ?_⟩
  · intro op clock hplain
    rw [run_limiter, hplain]
    rfl
  · intro α decode budget method path params otherwise clock call limited sent
    constructor
    · intro hrefused
      have hlimited : limited = (.ok otherwise, s.withLimiter (s.client.limiter.after call)) :=
        sendRateLimited_of_refused decode budget method path params otherwise clock s hrefused
      exact ⟨hlimited, congrArg (·.2.requests) hlimited, congrArg (·.2.replies) hlimited⟩
    · intro hadmitted
      have hlimited : limited = (sent.1, sent.2.withLimiter (s.client.limiter.after call)) :=
        sendRateLimited_of_admitted decode budget method path params otherwise clock s hadmitted
      refine ⟨hlimited, congrArg (·.2.requests) hlimited, congrArg (·.2.replies) hlimited, ?_⟩
      rw [hlimited]
      exact RateLimiter.spent_of_admits hadmitted
  · intro m hm m' hm' p p' l l' now hspent
    exact spent_shows_iff hm hm' hspent

end Session

end MarketDesk

import MarketDesk.Proofs.RateLimiter.Run

/-!
# What the state of a key tells of its next calls

The state of a key is read without a call, from a comparison of its own. It tells how the next calls
are answered: a key whose budget is not used up admits a call, and one with some calls left admits
that many before its window ends and refuses the rest, whatever is called on other keys meanwhile.
-/

namespace MarketDesk.RateLimiter

/-- The verdicts on the calls of a key. -/
def verdicts (key : String) (es : List (Call × Bool)) : List Bool :=
  (es.filter fun e => e.1.key = key).map Prod.snd

def callsOn (key : String) (calls : List Call) : Nat := calls.countP fun c => c.key = key

/-- All calls of a key have one budget and come until a last instant. Those of other keys are
free. -/
def Until (key : String) (budget last : Nat) (calls : List Call) : Prop :=
  ∀ c ∈ calls, c.key = key → c.budget = budget ∧ c.now ≤ last

/-- Until a last instant a key admits the next `r` calls of a budget and refuses all after them, and
its state tells at each such instant how many of the `r` are left. -/
structure Grants (l : RateLimiter) (key : String) (budget last r : Nat) : Prop where
  admitted : ∀ calls, Until key budget last calls → verdicts key (l.trace calls) =
    List.replicate (min r (callsOn key calls)) true ++
      List.replicate (callsOn key calls - r) false
  state : ∀ calls, Until key budget last calls → ∀ now ≤ last,
    (l.acquireAll calls).state key budget now =
      if callsOn key calls < r then .withinBudget (r - callsOn key calls) else .exhausted

/-- The window of a key ends at an instant, and has `r` slots left of a budget. -/
def Leaves (l : RateLimiter) (key : String) (budget last r : Nat) : Prop :=
  ∃ w, l.window? key = some w ∧ w.started + l.length = last ∧ w.count + r = budget

variable {l : RateLimiter} {key : String} {budget last r : Nat}

theorem state_of_none (h : l.window? key = none) (budget now : Nat) :
    l.state key budget now = .fresh := by
  rw [state, h]

theorem state_of_some {w : CallWindow} (h : l.window? key = some w) (budget now : Nat) :
    l.state key budget now =
      if w.started + l.length < now then .fresh
      else if w.count < budget then .withinBudget (budget - w.count) else .exhausted := by
  rw [state, h]
  simp only [CallWindow.expired_iff]

theorem admits_iff_state (l : RateLimiter) (c : Call) :
    l.admits c = true ↔ 0 < c.budget ∧ l.state c.key c.budget c.now ≠ .exhausted := by
  rw [admits_iff]
  cases hw : l.window? c.key with
  | none =>
    rw [current_of_none hw, state_of_none hw]
    simp
  | some w =>
    rw [current_of_some hw, state_of_some hw]
    by_cases hlate : w.started + l.length < c.now
    · simp [hlate]
    · by_cases hcount : w.count < c.budget
      · rw [if_neg hlate, if_neg hlate, if_pos hcount]
        refine iff_of_true hcount ⟨by omega, ?_⟩
        simp
      · simp [hlate, hcount]

theorem current_of_fresh {now : Nat} (h : l.state key budget now = .fresh) :
    l.current key now = ⟨now, 0⟩ := by
  cases hw : l.window? key with
  | none => exact current_of_none hw now
  | some w =>
    rw [state_of_some hw] at h
    rw [current_of_some hw]
    by_cases hlate : w.started + l.length < now
    · rw [if_pos hlate]
    · rw [if_neg hlate] at h
      split at h <;> exact nomatch h

theorem exists_window?_of_state {now : Nat} (h : l.state key budget now = .withinBudget r) :
    ∃ w, l.window? key = some w ∧ now ≤ w.started + l.length ∧ 0 < r ∧ w.count + r = budget := by
  cases hw : l.window? key with
  | none =>
    rw [state_of_none hw] at h
    exact nomatch h
  | some w =>
    rw [state_of_some hw] at h
    by_cases hlate : w.started + l.length < now
    · rw [if_pos hlate] at h
      exact nomatch h
    · by_cases hcount : w.count < budget
      · rw [if_neg hlate, if_pos hcount, WindowState.withinBudget.injEq] at h
        exact ⟨w, rfl, by omega, by omega, by omega⟩
      · rw [if_neg hlate, if_neg hcount] at h
        exact nomatch h

theorem verdicts_trace_cons (l : RateLimiter) (key : String) (c : Call) (rest : List Call) :
    verdicts key (l.trace (c :: rest)) =
      if c.key = key then l.admits c :: verdicts key ((l.after c).trace rest)
      else verdicts key ((l.after c).trace rest) := by
  by_cases hk : c.key = key
  · simp [verdicts, trace, hk]
  · simp [verdicts, trace, hk]

theorem callsOn_cons (key : String) (c : Call) (rest : List Call) :
    callsOn key (c :: rest) = if c.key = key then callsOn key rest + 1 else callsOn key rest := by
  by_cases hk : c.key = key
  · simp [callsOn, hk]
  · simp [callsOn, hk]

namespace Leaves

theorem state_eq (h : l.Leaves key budget last r) {now : Nat} (hin : now ≤ last) :
    l.state key budget now = if 0 < r then .withinBudget r else .exhausted := by
  obtain ⟨w, hw, hlast, hcount⟩ := h
  rw [state_of_some hw, if_neg (by omega)]
  by_cases hr : 0 < r
  · have hleft : budget - w.count = r := by omega
    rw [if_pos (by omega), if_pos hr, hleft]
  · rw [if_neg (by omega), if_neg hr]

/-- A call of the key takes one of the slots that are left. -/
theorem after_own {c : Call} (h : l.Leaves c.key c.budget last r) (hin : c.now ≤ last) :
    l.admits c = decide (0 < r) ∧ (l.after c).Leaves c.key c.budget last (r - 1) := by
  obtain ⟨w, hw, hlast, hcount⟩ := h
  have hcurrent : l.current c.key c.now = w := by rw [current_of_some hw, if_neg (by omega)]
  have hadmits : l.admits c = decide (0 < r) := by
    rw [Bool.eq_iff_iff, admits_iff, hcurrent, decide_eq_true_eq]
    omega
  have hwindow := window?_after_self l c
  rw [hadmits, hcurrent] at hwindow
  refine ⟨hadmits, ?_⟩
  by_cases hr : 0 < r
  · rw [if_pos (decide_eq_true hr)] at hwindow
    exact ⟨_, hwindow, hlast, by simp only; omega⟩
  · rw [if_neg (by simpa using hr)] at hwindow
    exact ⟨w, hwindow, hlast, by omega⟩

theorem after_other (h : l.Leaves key budget last r) {c : Call} (hk : c.key ≠ key) :
    (l.after c).Leaves key budget last r := by
  obtain ⟨w, hw, hlast, hcount⟩ := h
  exact ⟨w, (window?_after_of_ne l hk).trans hw, hlast, hcount⟩

/-- A run takes a slot for each of its calls on the key, as long as there are some. -/
theorem acquireAll (h : l.Leaves key budget last r) (calls : List Call)
    (hcalls : Until key budget last calls) :
    verdicts key (l.trace calls) = List.replicate (min r (callsOn key calls)) true ++
        List.replicate (callsOn key calls - r) false ∧
      (l.acquireAll calls).Leaves key budget last (r - callsOn key calls) := by
  -- `r` goes down by one with each call of the key, and stays at `0`
  induction calls generalizing l r with
  | nil => exact ⟨by simp [trace, verdicts, callsOn], h⟩
  | cons c rest ih =>
    have hrest : Until key budget last rest := fun d hd => hcalls d (List.mem_cons_of_mem c hd)
    rw [verdicts_trace_cons, callsOn_cons]
    by_cases hk : c.key = key
    · obtain ⟨hbudget, hin⟩ := hcalls c List.mem_cons_self hk
      subst hk hbudget
      obtain ⟨hadmits, hafter⟩ := h.after_own hin
      obtain ⟨hverdicts, hleaves⟩ := ih hafter hrest
      rw [if_pos rfl, if_pos rfl, hverdicts, hadmits]
      constructor
      · cases r with
        | zero => simp [List.replicate_succ]
        | succ r => simp [List.replicate_succ]
      · have hleft : r - (callsOn c.key rest + 1) = r - 1 - callsOn c.key rest := by omega
        rw [hleft]
        exact hleaves
    · rw [if_neg hk, if_neg hk]
      exact ih (h.after_other hk) hrest

theorem grants (h : l.Leaves key budget last r) : l.Grants key budget last r where
  admitted calls hcalls := (h.acquireAll calls hcalls).1
  state calls hcalls now hnow := by
    rw [(h.acquireAll calls hcalls).2.state_eq hnow]
    simp only [Nat.sub_pos_iff_lt]

end Leaves

/-- The state of a key tells the verdict on a call, and of later calls how many are admitted. With
some calls left, that many are, until the window ends. With none of the budget used, the call is
admitted and starts a window in which one less than the budget are. -/
theorem state_foretells (l : RateLimiter) (key : String) (budget now : Nat) :
    let call : Call := ⟨key, budget, now⟩
    (l.admits call = true ↔ 0 < budget ∧ l.state key budget now ≠ .exhausted) ∧
      (∀ r, l.state key budget now = .withinBudget r →
        1 ≤ r ∧ r ≤ budget ∧ ∃ w, l.window? key = some w ∧ w.count + r = budget ∧
          now ≤ w.started + l.length ∧ l.Grants key budget (w.started + l.length) r) ∧
      (l.state key budget now = .fresh → 0 < budget →
        l.admits call = true ∧ (l.after call).window? key = some ⟨now, 1⟩ ∧
          (l.after call).Grants key budget (now + l.length) (budget - 1)) := by
  intro call
  refine ⟨admits_iff_state l call, fun r hstate => ?_, fun hstate hbudget => ?_⟩
  · obtain ⟨w, hw, hin, hr, hcount⟩ := exists_window?_of_state hstate
    have hleaves : l.Leaves key budget (w.started + l.length) r := ⟨w, hw, rfl, hcount⟩
    exact ⟨hr, by omega, w, hw, hcount, hin, hleaves.grants⟩
  · have hcurrent := current_of_fresh hstate
    have hadmits : l.admits call = true := by rwa [admits_iff, hcurrent]
    have hwindow : (l.after call).window? key = some ⟨now, 1⟩ := by
      rw [window?_after_self, if_pos hadmits, hcurrent]
    have hleaves : (l.after call).Leaves key budget (now + l.length) (budget - 1) :=
      ⟨_, hwindow, rfl, Nat.add_sub_cancel' hbudget⟩
    exact ⟨hadmits, hwindow, hleaves.grants⟩

end MarketDesk.RateLimiter

import MarketDesk.Proofs.Dictionary
import MarketDesk.RateLimiter

/-!
# Runs of the rate limiter

Calls of any keys, one after another, each with a budget and an instant of its own. `trace` gives
the verdict on each call and `acquireAll` the limiter afterwards. A call changes the window of its
own key only, and a contiguous piece of a trace is the trace of its calls from some later state.
-/

namespace MarketDesk

theorem CallWindow.expired_iff {w : CallWindow} {length now : Nat} :
    w.expired length now = true ↔ w.started + length < now := by
  rw [CallWindow.expired, decide_eq_true_eq]
  omega

namespace RateLimiter

structure Call where
  key : String
  budget : Nat
  now : Nat
  deriving DecidableEq, Repr

def admits (l : RateLimiter) (c : Call) : Bool := (l.acquire c.key c.budget c.now).1

def after (l : RateLimiter) (c : Call) : RateLimiter := (l.acquire c.key c.budget c.now).2

def acquireAll (l : RateLimiter) (calls : List Call) : RateLimiter := calls.foldl after l

def trace (l : RateLimiter) : List Call → List (Call × Bool)
  | [] => []
  | c :: rest => (c, l.admits c) :: (l.after c).trace rest

/-- The calls of a key that a trace admits. -/
def admissions (key : String) (es : List (Call × Bool)) : Nat :=
  es.countP fun e => e.1.key == key && e.2

@[simp] theorem length_after (l : RateLimiter) (c : Call) : (l.after c).length = l.length := rfl

theorem admits_eq (l : RateLimiter) (c : Call) :
    l.admits c = (CallWindow.acquire (l.window? c.key) l.length c.budget c.now).1 := rfl

theorem window?_after (l : RateLimiter) (c : Call) (key : String) :
    (l.after c).window? key =
      if c.key = key then
        some (CallWindow.acquire (l.window? key) l.length c.budget c.now).2
      else l.window? key := by
  change (l.windows.set c.key
    (CallWindow.acquire (l.window? c.key) l.length c.budget c.now).2).get? key = _
  rw [Dictionary.get?_set]
  by_cases hk : c.key = key
  · rw [if_pos hk, if_pos hk, hk]
  · rw [if_neg hk, if_neg hk, window?]

theorem window?_after_of_ne (l : RateLimiter) {c : Call} {key : String} (h : c.key ≠ key) :
    (l.after c).window? key = l.window? key := by
  rw [window?_after, if_neg h]

/-- The window of its own key that a call falls into. -/
def current (l : RateLimiter) (key : String) (now : Nat) : CallWindow :=
  CallWindow.current (l.window? key) l.length now

theorem admits_iff (l : RateLimiter) (c : Call) :
    l.admits c = true ↔ (l.current c.key c.now).count < c.budget := by
  rw [admits_eq, current]
  unfold CallWindow.acquire CallWindow.spend
  split <;> simp_all

theorem window?_after_self (l : RateLimiter) (c : Call) :
    (l.after c).window? c.key =
      some (if l.admits c then ⟨(l.current c.key c.now).started, (l.current c.key c.now).count + 1⟩
        else l.current c.key c.now) := by
  rw [window?_after, if_pos (Eq.refl c.key)]
  simp only [admits_iff, current]
  unfold CallWindow.acquire CallWindow.spend
  split <;> rfl

theorem current_of_none {l : RateLimiter} {key : String} (h : l.window? key = none) (now : Nat) :
    l.current key now = ⟨now, 0⟩ := by
  rw [current, h]
  rfl

theorem current_of_some {l : RateLimiter} {key : String} {w : CallWindow}
    (h : l.window? key = some w) (now : Nat) :
    l.current key now = if w.started + l.length < now then ⟨now, 0⟩ else w := by
  rw [current, h]
  simp only [CallWindow.current, CallWindow.expired_iff]

/-- The limiter `l'` has used one more slot of a key than `l` at an instant, in the window of that
instant, and has the windows of all other keys as they were. -/
structure Spent (l l' : RateLimiter) (key : String) (now : Nat) : Prop where
  length : l'.length = l.length
  own : l'.window? key = some ⟨(l.current key now).started, (l.current key now).count + 1⟩
  others : ∀ other, other ≠ key → l'.window? other = l.window? other

theorem spent_of_admits {l : RateLimiter} {c : Call} (h : l.admits c = true) :
    Spent l (l.after c) c.key c.now where
  length := rfl
  own := by rw [window?_after_self, if_pos h]
  others _ hother := window?_after_of_ne l hother.symm

/-- A slot that is used shows: the window counts one more, or it has started anew. -/
theorem Spent.window?_ne {l l' : RateLimiter} {key : String} {now : Nat} (h : Spent l l' key now) :
    l'.window? key ≠ l.window? key := by
  rw [h.own]
  cases hw : l.window? key with
  | none => exact Option.some_ne_none _
  | some w =>
    intro heq
    rw [current_of_some hw, Option.some.injEq] at heq
    by_cases hlate : w.started + l.length < now
    · rw [if_pos hlate] at heq
      have hstarted : now = w.started := congrArg CallWindow.started heq
      omega
    · rw [if_neg hlate] at heq
      exact Nat.succ_ne_self _ (congrArg CallWindow.count heq)

theorem length_acquireAll (l : RateLimiter) (calls : List Call) :
    (l.acquireAll calls).length = l.length := by
  induction calls generalizing l with
  | nil => rfl
  | cons c rest ih => exact ih (l.after c)

theorem acquireAll_append (l : RateLimiter) (xs ys : List Call) :
    l.acquireAll (xs ++ ys) = (l.acquireAll xs).acquireAll ys := List.foldl_append

theorem trace_append (l : RateLimiter) (xs ys : List Call) :
    l.trace (xs ++ ys) = l.trace xs ++ (l.acquireAll xs).trace ys := by
  induction xs generalizing l with
  | nil => rfl
  | cons c rest ih => exact congrArg ((c, l.admits c) :: ·) (ih (l.after c))

theorem map_fst_trace (l : RateLimiter) (calls : List Call) :
    (l.trace calls).map Prod.fst = calls := by
  induction calls generalizing l with
  | nil => rfl
  | cons c rest ih => exact congrArg (c :: ·) (ih (l.after c))

/-- A stretch of a run is a run of its own, from the limiter as the calls before have left it. -/
theorem eq_trace_of_infix {l : RateLimiter} {calls : List Call} {stretch : List (Call × Bool)}
    (h : stretch <:+: l.trace calls) :
    ∃ before, stretch = (l.acquireAll before).trace (stretch.map Prod.fst) := by
  obtain ⟨xs, ys, h⟩ := h
  have hcalls := congrArg (List.map Prod.fst) h
  rw [map_fst_trace, List.map_append, List.map_append] at hcalls
  rw [← hcalls, trace_append, trace_append] at h
  have hlength (l : RateLimiter) (es : List (Call × Bool)) :
      (l.trace (es.map Prod.fst)).length = es.length := by
    rw [← List.length_map (f := Prod.fst), map_fst_trace, List.length_map]
  have hxs := List.append_inj_left h (by simp only [List.length_append, hlength])
  exact ⟨xs.map Prod.fst, List.append_inj_right hxs (hlength _ _).symm⟩

end RateLimiter

end MarketDesk

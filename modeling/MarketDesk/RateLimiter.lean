import MarketDesk.Dictionary

/-!
# Call budgets in fixed windows

Each key has a window that starts at its first call and again at the first call more than the
window's length after the start. Within a window a call is admitted while fewer calls than its
budget have been. Instants are nanoseconds on a clock of their own, and one before the start counts
as the start.
-/

namespace MarketDesk

structure CallWindow where
  started : Nat
  count : Nat
  deriving DecidableEq, Repr

inductive WindowState
  | fresh
  | withinBudget (remaining : Nat)
  | exhausted
  deriving DecidableEq, Repr

structure RateLimiter where
  length : Nat
  windows : Dictionary String CallWindow

namespace CallWindow

def expired (w : CallWindow) (length now : Nat) : Bool := length < now - w.started

/-- The window that a call at an instant falls into. -/
def current (w : Option CallWindow) (length now : Nat) : CallWindow :=
  match w with
  | none => ⟨now, 0⟩
  | some w => if w.expired length now then ⟨now, 0⟩ else w

/-- Counts a call if the budget admits it. -/
def spend (w : CallWindow) (budget : Nat) : Bool × CallWindow :=
  if w.count < budget then (true, ⟨w.started, w.count + 1⟩) else (false, w)

def acquire (w : Option CallWindow) (length budget now : Nat) : Bool × CallWindow :=
  (current w length now).spend budget

end CallWindow

namespace RateLimiter

def ofLength (length : Nat) : RateLimiter := ⟨length, .empty⟩

def window? (l : RateLimiter) (key : String) : Option CallWindow := l.windows.get? key

def acquire (l : RateLimiter) (key : String) (budget now : Nat) : Bool × RateLimiter :=
  let (admitted, window) := CallWindow.acquire (l.window? key) l.length budget now
  (admitted, ⟨l.length, l.windows.set key window⟩)

def state (l : RateLimiter) (key : String) (budget now : Nat) : WindowState :=
  match l.window? key with
  | none => .fresh
  | some w =>
      if w.expired l.length now then .fresh
      else if w.count < budget then .withinBudget (budget - w.count)
      else .exhausted

end RateLimiter

end MarketDesk

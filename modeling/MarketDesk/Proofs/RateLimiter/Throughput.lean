import MarketDesk.Proofs.RateLimiter.Run

/-!
# Throughput of the rate limiter

Within `n` lengths of a window a key admits at most `n + 1` times the largest budget, however the
calls interleave and whatever the order of their instants. The measure is what a key can still admit
up to a last instant: the slots left in its window, and a whole budget for each start of a window
that there is room for. Starts lie more than a length apart, so a call that starts a window pays a
whole budget for it, and any other call pays for its own admission only.
-/

namespace MarketDesk

namespace CallWindow

/-- The first instant not before `first` at which a window can start. -/
def earliestStart (w : Option CallWindow) (length first : Nat) : Nat :=
  match w with
  | none => first
  | some w => max first (w.started + length + 1)

/-- How many windows can start one after another until `last`. -/
def startsLeft (w : Option CallWindow) (length first last : Nat) : Nat :=
  (last + (length + 1) - earliestStart w length first) / (length + 1)

def slotsLeft (w : Option CallWindow) (B : Nat) : Nat :=
  match w with
  | none => 0
  | some w => B - w.count

def capacity (w : Option CallWindow) (length B first last : Nat) : Nat :=
  slotsLeft w B + B * startsLeft w length first last

theorem started_spend (w : CallWindow) (budget : Nat) : (w.spend budget).2.started = w.started := by
  unfold spend
  split <;> rfl

theorem slotsLeft_spend (w : CallWindow) {budget B : Nat} (hB : budget ≤ B) :
    (w.spend budget).1.toNat + slotsLeft (some (w.spend budget).2) B = slotsLeft (some w) B := by
  unfold spend slotsLeft
  split
  · dsimp only [Bool.toNat_true]
    omega
  · exact Nat.zero_add _

/-- A call falls into the window that is there, or starts one where a start is possible. -/
theorem current_eq_or_restart (w : Option CallWindow) (length : Nat) {first now : Nat}
    (hfirst : first ≤ now) :
    w = some (current w length now) ∨
      current w length now = ⟨now, 0⟩ ∧ earliestStart w length first ≤ now := by
  cases w with
  | none => exact Or.inr ⟨rfl, hfirst⟩
  | some w =>
    by_cases hlate : w.started + length < now
    · refine Or.inr ⟨if_pos (expired_iff.mpr hlate), ?_⟩
      exact Nat.max_le.mpr ⟨hfirst, hlate⟩
    · exact Or.inl (congrArg some (if_neg (mt expired_iff.mp hlate)).symm)

theorem startsLeft_restart {w : Option CallWindow} {length first now last : Nat}
    (hfirst : first ≤ now) (hlast : now ≤ last) (hstart : earliestStart w length first ≤ now) :
    startsLeft (some ⟨now, 0⟩) length first last + 1 ≤ startsLeft w length first last := by
  have hnext : earliestStart (some ⟨now, 0⟩) length first = now + length + 1 :=
    Nat.max_eq_right (Nat.le_add_right_of_le (Nat.le_add_right_of_le hfirst))
  unfold startsLeft
  rw [hnext, ← Nat.add_div_right _ (Nat.succ_pos length)]
  exact Nat.div_le_div_right (by omega)

theorem capacity_current_le (w : Option CallWindow) (length B : Nat) {first now last : Nat}
    (hfirst : first ≤ now) (hlast : now ≤ last) :
    capacity (some (current w length now)) length B first last ≤
      capacity w length B first last := by
  rcases current_eq_or_restart w length hfirst with hw | ⟨hw, hstart⟩
  · exact Nat.le_of_eq (congrArg (capacity · length B first last) hw.symm)
  · have hs := Nat.mul_le_mul_left B (startsLeft_restart hfirst hlast hstart)
    rw [Nat.mul_add, Nat.mul_one] at hs
    rw [hw]
    change B - 0 + _ ≤ slotsLeft w B + _
    omega

/-- A call pays for its own admission. -/
theorem capacity_acquire_le (w : Option CallWindow) (length : Nat) {budget B first now last : Nat}
    (hB : budget ≤ B) (hfirst : first ≤ now) (hlast : now ≤ last) :
    (acquire w length budget now).1.toNat +
        capacity (some (acquire w length budget now).2) length B first last ≤
      capacity w length B first last := by
  refine Nat.le_trans (Nat.le_of_eq ?_) (capacity_current_le w length B hfirst hlast)
  have hstarts : startsLeft (some (acquire w length budget now).2) length first last =
      startsLeft (some (current w length now)) length first last := by
    simp only [startsLeft, earliestStart, acquire, started_spend]
  unfold capacity
  rw [hstarts, ← Nat.add_assoc]
  exact congrArg (· + _) (slotsLeft_spend _ hB)

theorem capacity_le (w : Option CallWindow) (length B first : Nat) {n : Nat} (hn : 1 ≤ n) :
    capacity w length B first (first + n * length) ≤ (n + 1) * B := by
  have hslots : slotsLeft w B ≤ B := by
    cases w with
    | none => exact Nat.zero_le B
    | some w => exact Nat.sub_le B w.count
  have hearliest : first ≤ earliestStart w length first := by
    cases w with
    | none => exact Nat.le_refl _
    | some w => exact Nat.le_max_left _ _
  have hstarts : startsLeft w length first (first + n * length) ≤ n := by
    have hroom : (n + 1) * (length + 1) = n * length + n + (length + 1) := by
      rw [Nat.succ_mul, Nat.mul_succ]
    unfold startsLeft
    rw [← Nat.lt_succ_iff, Nat.div_lt_iff_lt_mul (Nat.succ_pos length), hroom]
    omega
  calc capacity w length B first (first + n * length)
      ≤ B + B * n := Nat.add_le_add hslots (Nat.mul_le_mul_left B hstarts)
    _ = (n + 1) * B := by rw [Nat.succ_mul, Nat.mul_comm B n, Nat.add_comm]

end CallWindow

namespace RateLimiter

theorem admissions_cons (key : String) (e : Call × Bool) (es : List (Call × Bool)) :
    admissions key (e :: es) = (e.1.key == key && e.2).toNat + admissions key es := by
  unfold admissions
  rw [List.countP_cons, Nat.add_comm]
  cases e.1.key == key && e.2 <;> rfl

theorem admissions_trace_le_capacity (l : RateLimiter) (calls : List Call) (key : String)
    {B first last : Nat} (hB : ∀ c ∈ calls, c.budget ≤ B)
    (hin : ∀ c ∈ calls, first ≤ c.now ∧ c.now ≤ last) :
    admissions key (l.trace calls) ≤
      CallWindow.capacity (l.window? key) l.length B first last := by
  induction calls generalizing l with
  | nil => exact Nat.zero_le _
  | cons c rest ih =>
    have hrest := ih (l.after c) (fun c hc => hB c (List.mem_cons_of_mem _ hc))
      (fun c hc => hin c (List.mem_cons_of_mem _ hc))
    rw [trace, admissions_cons]
    by_cases hk : c.key = key
    · have hc := hin c List.mem_cons_self
      have hpay := CallWindow.capacity_acquire_le (l.window? key) l.length
        (hB c List.mem_cons_self) hc.1 hc.2
      rw [window?_after, if_pos hk, length_after] at hrest
      rw [admits_eq, hk, beq_self_eq_true, Bool.true_and]
      dsimp only
      omega
    · rw [window?_after_of_ne l hk, length_after] at hrest
      rw [beq_false_of_ne hk, Bool.false_and, Bool.toNat_false, Nat.zero_add]
      exact hrest

/-- However calls of all keys interleave, also with instants that go back, no stretch of a run
within `n` lengths of a window admits more than `n + 1` times the largest budget on one key. -/
theorem admissions_stretch_le (l : RateLimiter) (calls : List Call) (B : Nat)
    (hB : ∀ c ∈ calls, c.budget ≤ B) (n : Nat) (hn : 1 ≤ n) (first : Nat)
    (stretch : List (Call × Bool)) (hstretch : stretch <:+: l.trace calls)
    (hin : ∀ e ∈ stretch, first ≤ e.1.now ∧ e.1.now ≤ first + n * l.length) (key : String) :
    admissions key stretch ≤ (n + 1) * B := by
  obtain ⟨before, hrun⟩ := eq_trace_of_infix hstretch
  have hcalls : ∀ c ∈ stretch.map Prod.fst, c ∈ calls := by
    have hsub := hstretch.map Prod.fst
    rw [map_fst_trace] at hsub
    exact fun c hc => hsub.subset hc
  have hle := admissions_trace_le_capacity (l.acquireAll before) (stretch.map Prod.fst) key
    (fun c hc => hB c (hcalls c hc)) (List.forall_mem_map.mpr hin)
  rw [← hrun, length_acquireAll] at hle
  exact Nat.le_trans hle (CallWindow.capacity_le _ _ _ _ hn)

/-- The bound is reached within one length, also by a call whose instant goes back. -/
theorem admissions_stretch_two_windows :
    let l := ofLength 10
    let calls : List Call :=
      [⟨"a", 0, 0⟩, ⟨"a", 2, 10⟩, ⟨"b", 1, 10⟩, ⟨"a", 2, 10⟩, ⟨"a", 2, 11⟩, ⟨"a", 2, 9⟩]
    let stretch := (l.trace calls).drop 1
    (∀ c ∈ calls, c.budget ≤ 2) ∧ 1 ≤ 1 ∧ stretch <:+: l.trace calls ∧
      (∀ e ∈ stretch, 1 ≤ e.1.now ∧ e.1.now ≤ 1 + 1 * l.length) ∧
      admissions "a" stretch = 4 ∧ admissions "a" stretch ≤ (1 + 1) * 2 := by
  intro l calls stretch
  have hB : ∀ c ∈ calls, c.budget ≤ 2 := by decide
  have hstretch : stretch <:+: l.trace calls := (List.drop_suffix 1 _).isInfix
  have hin : ∀ e ∈ stretch, 1 ≤ e.1.now ∧ e.1.now ≤ 1 + 1 * l.length := by decide
  exact ⟨hB, Nat.le_refl 1, hstretch, hin, by decide,
    admissions_stretch_le l calls 2 hB 1 (Nat.le_refl 1) 1 stretch hstretch hin "a"⟩

end RateLimiter

end MarketDesk

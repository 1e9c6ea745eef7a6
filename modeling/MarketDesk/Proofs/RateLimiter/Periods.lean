import MarketDesk.Proofs.RateLimiter.Run

/-!
# A counter for each key

On one key a limiter is a counter that the other keys do not touch. The calls of the key fall into
periods: its first call starts one, and so does each call that comes more than a length after the
start of the latest. Within a period a call is admitted if fewer calls than its budget have been.
The window of the key is the start of its latest period, with the number of admissions there.
-/

namespace MarketDesk.RateLimiter

/-- Calls of one key that share a window, with the verdicts on them, the latest first. -/
structure Period where
  started : Nat
  calls : List (Call × Bool)
  deriving DecidableEq, Repr

namespace Period

def opened (now : Nat) : Period := ⟨now, []⟩

def admitted (p : Period) : Nat := p.calls.countP Prod.snd

/-- A call is admitted if fewer calls than its budget have been admitted so far. -/
def enter (p : Period) (c : Call) : Period :=
  ⟨p.started, (c, decide (p.admitted < c.budget)) :: p.calls⟩

def window (p : Period) : CallWindow := ⟨p.started, p.admitted⟩

theorem admitted_enter (p : Period) (c : Call) :
    (p.enter c).admitted = if p.admitted < c.budget then p.admitted + 1 else p.admitted := by
  change ((c, decide (p.admitted < c.budget)) :: p.calls).countP Prod.snd = _
  rw [List.countP_cons, ← admitted]
  by_cases hc : p.admitted < c.budget
  · simp [hc]
  · simp [hc]

theorem window_enter (p : Period) (c : Call) :
    (p.enter c).window =
      if p.admitted < c.budget then ⟨p.started, p.admitted + 1⟩ else p.window := by
  rw [window, admitted_enter]
  by_cases hc : p.admitted < c.budget
  · simp [hc, enter]
  · simp [hc, enter, window]

end Period

/-- The periods of a key, the latest first, after one more of its calls. -/
def extend (length : Nat) : List Period → Call → List Period
  | [], c => [(Period.opened c.now).enter c]
  | p :: earlier, c =>
      if p.started + length < c.now then (Period.opened c.now).enter c :: p :: earlier
      else p.enter c :: earlier

def periods (length : Nat) (calls : List Call) : List Period := calls.foldl (extend length) []

/-- The calls of some periods with the verdicts on them, in the order in which they came. -/
def answers (ps : List Period) : List (Call × Bool) := (ps.flatMap Period.calls).reverse

theorem periods_concat (length : Nat) (calls : List Call) (c : Call) :
    periods length (calls ++ [c]) = extend length (periods length calls) c := List.foldl_append

/-- A call falls into the latest period or starts one. -/
theorem extend_cases (length : Nat) (ps : List Period) (c : Call) :
    (∃ p earlier, ps = p :: earlier ∧ c.now ≤ p.started + length ∧
      extend length ps c = p.enter c :: earlier) ∨
    (∀ p ∈ ps.head?, p.started + length < c.now) ∧
      extend length ps c = (Period.opened c.now).enter c :: ps := by
  cases ps with
  | nil => exact Or.inr ⟨by simp, rfl⟩
  | cons p earlier =>
    by_cases hlate : p.started + length < c.now
    · refine Or.inr ⟨by simpa using hlate, ?_⟩
      rw [extend, if_pos hlate]
    · refine Or.inl ⟨p, earlier, rfl, by omega, ?_⟩
      rw [extend, if_neg hlate]

/-- What holds of no periods, and still holds after a call that falls into the latest period and
after one that starts a period, holds of the periods of any calls. -/
theorem periods_induction {length : Nat} {P : List Period → Prop} (nil : P [])
    (enter : ∀ p earlier c, P (p :: earlier) → c.now ≤ p.started + length →
      P (p.enter c :: earlier))
    (start : ∀ ps c, P ps → (∀ p ∈ ps.head?, p.started + length < c.now) →
      P ((Period.opened c.now).enter c :: ps)) (calls : List Call) : P (periods length calls) := by
  induction calls using List.reverseRecOn with
  | nil => exact nil
  | append_singleton calls c ih =>
    rw [periods_concat]
    rcases extend_cases length (periods length calls) c with
      ⟨p, earlier, hps, hin, hextend⟩ | ⟨hlate, hextend⟩
    · rw [hps] at ih
      rw [hextend]
      exact enter p earlier c ih hin
    · rw [hextend]
      exact start _ c ih hlate

theorem answers_enter (p : Period) (c : Call) (earlier : List Period) :
    answers (p.enter c :: earlier) =
      answers (p :: earlier) ++ [(c, decide (p.admitted < c.budget))] := by
  simp [answers, Period.enter]

theorem answers_opened (now : Nat) (ps : List Period) :
    answers (Period.opened now :: ps) = answers ps := rfl

/-- Each start is more than a length after the one before. -/
theorem starts_periods (length : Nat) (calls : List Call) :
    (periods length calls).Pairwise fun later earlier =>
      earlier.started + length < later.started := by
  apply periods_induction
  · exact List.Pairwise.nil
  · intro p earlier c hps _
    rw [List.pairwise_cons] at hps ⊢
    exact hps
  · intro ps c hps hlate
    refine List.pairwise_cons.mpr ⟨fun q hq => ?_, hps⟩
    change q.started + length < c.now
    cases ps with
    | nil => simp at hq
    | cons p earlier =>
      have hp : p.started + length < c.now := hlate p rfl
      rcases List.mem_cons.mp hq with rfl | hq
      · exact hp
      · have hstart := (List.pairwise_cons.mp hps).1 q hq
        omega

theorem exists_budget_enter (p : Period) (c : Call)
    (hp : p.admitted = 0 ∨ ∃ e ∈ p.calls, p.admitted ≤ e.1.budget) :
    ∃ e ∈ (p.enter c).calls, (p.enter c).admitted ≤ e.1.budget := by
  rw [Period.admitted_enter]
  by_cases hc : p.admitted < c.budget
  · rw [if_pos hc]
    exact ⟨_, List.mem_cons_self, hc⟩
  · rw [if_neg hc]
    rcases hp with hzero | ⟨e, he, hle⟩
    · exact ⟨_, List.mem_cons_self, by omega⟩
    · exact ⟨e, List.mem_cons_of_mem _ he, hle⟩

/-- Some call of a period has a budget that the admissions of the period do not exceed. -/
theorem admitted_le_budget (length : Nat) (calls : List Call) :
    ∀ p ∈ periods length calls, ∃ e ∈ p.calls, p.admitted ≤ e.1.budget := by
  apply periods_induction (P := fun ps => ∀ p ∈ ps, ∃ e ∈ p.calls, p.admitted ≤ e.1.budget)
  · simp
  · intro p earlier c hps _ q hq
    rcases List.mem_cons.mp hq with rfl | hq
    · exact exists_budget_enter p c (Or.inr (hps p List.mem_cons_self))
    · exact hps q (List.mem_cons_of_mem p hq)
  · intro ps c hps _ q hq
    rcases List.mem_cons.mp hq with rfl | hq
    · exact exists_budget_enter _ c (Or.inl rfl)
    · exact hps q hq

section Step

variable {l : RateLimiter} {c : Call} {p : Period}

theorem admits_of_current (h : l.current c.key c.now = p.window) :
    l.admits c = decide (p.admitted < c.budget) := by
  rw [Bool.eq_iff_iff, admits_iff, h, decide_eq_true_eq]
  rfl

theorem window?_after_of_current (h : l.current c.key c.now = p.window) :
    (l.after c).window? c.key = some (p.enter c).window := by
  rw [window?_after_self, admits_of_current h, h, Period.window_enter]
  simp only [decide_eq_true_eq]
  rfl

/-- A call that the periods of its key describe is described by them with the call added. -/
theorem after_extend {ps : List Period} (h : l.window? c.key = ps.head?.map Period.window) :
    (l.after c).window? c.key = (extend l.length ps c).head?.map Period.window ∧
      answers (extend l.length ps c) = answers ps ++ [(c, l.admits c)] := by
  rcases extend_cases l.length ps c with ⟨p, earlier, rfl, hin, hextend⟩ | ⟨hlate, hextend⟩
  · have hin' : ¬p.window.started + l.length < c.now := Nat.not_lt.mpr hin
    have hcurrent : l.current c.key c.now = p.window := by rw [current_of_some h, if_neg hin']
    rw [hextend, window?_after_of_current hcurrent, answers_enter, admits_of_current hcurrent]
    exact ⟨rfl, rfl⟩
  · have hcurrent : l.current c.key c.now = (Period.opened c.now).window := by
      cases ps with
      | nil => exact current_of_none h c.now
      | cons p earlier =>
        have hp : p.window.started + l.length < c.now := hlate p rfl
        rw [current_of_some h, if_pos hp]
        rfl
    rw [hextend, window?_after_of_current hcurrent, answers_enter, answers_opened,
      admits_of_current hcurrent]
    exact ⟨rfl, rfl⟩

end Step

/-- The verdicts on the calls of a key and its window are those of its periods. -/
theorem acquireAll_periods (length : Nat) (calls : List Call) (key : String) :
    ((ofLength length).acquireAll calls).window? key =
        (periods length (calls.filter fun c => c.key = key)).head?.map Period.window ∧
      ((ofLength length).trace calls).filter (fun e => e.1.key = key) =
        answers (periods length (calls.filter fun c => c.key = key)) := by
  -- from the end, since the verdict on a call depends on the calls before it
  induction calls using List.reverseRecOn with
  | nil => exact ⟨rfl, rfl⟩
  | append_singleton calls c ih =>
    obtain ⟨hwindow, hanswers⟩ := ih
    have hlength : ((ofLength length).acquireAll calls).length = length := length_acquireAll _ _
    rw [acquireAll_append, trace_append, List.filter_append, List.filter_append, hanswers]
    change (((ofLength length).acquireAll calls).after c).window? key = _ ∧
      _ ++ [(c, ((ofLength length).acquireAll calls).admits c)].filter (fun e => e.1.key = key) = _
    by_cases hk : c.key = key
    · subst hk
      have hstep := after_extend hwindow
      rw [hlength] at hstep
      rw [List.filter_cons_of_pos (by simp), List.filter_cons_of_pos (by simp), List.filter_nil,
        List.filter_nil, periods_concat]
      exact ⟨hstep.1, hstep.2.symm⟩
    · rw [List.filter_cons_of_neg (by simpa using hk), List.filter_cons_of_neg (by simpa using hk),
        List.filter_nil, List.filter_nil, List.append_nil, List.append_nil,
        window?_after_of_ne _ hk]
      exact ⟨hwindow, rfl⟩

/-- What the window of a key stands for: the calls that are refused in it leave it as it is, and it
stays until a call comes more than a length after its start. -/
structure Standing (l : RateLimiter) (key : String) (w : CallWindow) : Prop where
  advances : ∀ more, ∃ w', (l.acquireAll more).window? key = some w' ∧
    (w'.started = w.started ∨ w.started + l.length < w'.started)
  refused : ∀ c, c.key = key → c.now ≤ w.started + l.length → l.admits c = false →
    ∀ other, (l.after c).window? other = l.window? other
  exhausted : ∀ more,
    (∀ c ∈ more, c.key = key → c.now ≤ w.started + l.length ∧ c.budget ≤ w.count) →
      (∀ e ∈ l.trace more, e.1.key = key → e.2 = false) ∧
        (l.acquireAll more).window? key = some w
  reopens : ∀ c, c.key = key → w.started + l.length < c.now →
    (l.admits c = true ↔ 0 < c.budget) ∧
      (l.after c).window? key = some ⟨c.now, if 0 < c.budget then 1 else 0⟩

section Standing

variable {l : RateLimiter} {key : String} {w : CallWindow}

theorem window?_after_of_refused {c : Call} (h : l.window? c.key = some w)
    (hin : c.now ≤ w.started + l.length) (hrefused : l.admits c = false) :
    (l.after c).window? c.key = some w := by
  rw [window?_after_self, hrefused, current_of_some h, if_neg (Nat.not_lt.mpr hin)]
  rfl

theorem exists_window?_after (h : l.window? key = some w) (c : Call) :
    ∃ w', (l.after c).window? key = some w' ∧
      (w'.started = w.started ∨ w.started + l.length < w'.started) := by
  by_cases hk : c.key = key
  · subst hk
    rw [window?_after_self, current_of_some h]
    by_cases hlate : w.started + l.length < c.now
    · refine ⟨_, rfl, Or.inr ?_⟩
      simp only [if_pos hlate]
      split <;> exact hlate
    · refine ⟨_, rfl, Or.inl ?_⟩
      simp only [if_neg hlate]
      split <;> rfl
  · exact ⟨w, by rw [window?_after_of_ne l hk, h], Or.inl rfl⟩

theorem exists_window?_acquireAll (h : l.window? key = some w) (more : List Call) :
    ∃ w', (l.acquireAll more).window? key = some w' ∧
      (w'.started = w.started ∨ w.started + l.length < w'.started) := by
  induction more generalizing l w with
  | nil => exact ⟨w, h, Or.inl rfl⟩
  | cons c rest ih =>
    obtain ⟨v, hv, hstep⟩ := exists_window?_after h c
    obtain ⟨w', hw', hrest⟩ := ih hv
    rw [length_after] at hrest
    exact ⟨w', hw', by omega⟩

/-- Calls that the window of their key has no slot for are refused and change nothing. -/
theorem acquireAll_of_exhausted (h : l.window? key = some w) (more : List Call)
    (hmore : ∀ c ∈ more, c.key = key → c.now ≤ w.started + l.length ∧ c.budget ≤ w.count) :
    (∀ e ∈ l.trace more, e.1.key = key → e.2 = false) ∧
      (l.acquireAll more).window? key = some w := by
  -- the window stays `w` throughout, so each call meets the same full count
  induction more generalizing l with
  | nil => exact ⟨fun e he => absurd he List.not_mem_nil, h⟩
  | cons c rest ih =>
    have hstep : (c.key = key → l.admits c = false) ∧ (l.after c).window? key = some w := by
      by_cases hk : c.key = key
      · subst hk
        obtain ⟨hin, hbudget⟩ := hmore c List.mem_cons_self rfl
        have hrefused : l.admits c = false := by
          rw [← Bool.not_eq_true, admits_iff, current_of_some h, if_neg (Nat.not_lt.mpr hin)]
          omega
        exact ⟨fun _ => hrefused, window?_after_of_refused h hin hrefused⟩
      · exact ⟨fun hkey => absurd hkey hk, (window?_after_of_ne l hk).trans h⟩
    obtain ⟨hverdicts, hwindow⟩ := ih hstep.2 fun c hc => hmore c (List.mem_cons_of_mem _ hc)
    refine ⟨fun e he hkey => ?_, hwindow⟩
    rcases List.mem_cons.mp he with rfl | he
    · exact hstep.1 hkey
    · exact hverdicts e he hkey

theorem standing_of_window? (h : l.window? key = some w) : l.Standing key w where
  advances := exists_window?_acquireAll h
  refused := by
    rintro c rfl hin hrefused other
    by_cases hother : c.key = other
    · subst hother
      rw [window?_after_of_refused h hin hrefused, h]
    · exact window?_after_of_ne l hother
  exhausted := acquireAll_of_exhausted h
  reopens := by
    rintro c rfl hlate
    have hcurrent : l.current c.key c.now = ⟨c.now, 0⟩ := by
      rw [current_of_some h, if_pos hlate]
    have hadmits : l.admits c = true ↔ 0 < c.budget := by rw [admits_iff, hcurrent]
    refine ⟨hadmits, ?_⟩
    rw [window?_after_self, hcurrent]
    simp only [hadmits]
    split <;> rfl

end Standing

/-- However calls of all keys interleave, with any budgets and with instants in any order, those of
one key are answered, and its window is, as its periods say. No period admits more calls than its
largest budget, so the count stays within the numbers that budgets are taken from. Periods start
more than a length apart. -/
theorem counts_by_periods (length : Nat) (calls : List Call) (key : String) :
    let l := (ofLength length).acquireAll calls
    let ps := periods length (calls.filter fun c => c.key = key)
    ((ofLength length).trace calls).filter (fun e => e.1.key = key) = answers ps ∧
      l.window? key = ps.head?.map Period.window ∧
      (∀ p ∈ ps, ∃ e ∈ p.calls, p.admitted ≤ e.1.budget) ∧
      ((∀ c ∈ calls, c.budget < UInt32.size) → ∀ p ∈ ps, p.admitted < UInt32.size) ∧
      (ps.Pairwise fun later earlier => earlier.started + length < later.started) ∧
      ∀ w, l.window? key = some w → l.Standing key w := by
  intro l ps
  obtain ⟨hwindow, hanswers⟩ := acquireAll_periods length calls key
  have hbudget := admitted_le_budget length (calls.filter fun c => c.key = key)
  refine ⟨hanswers, hwindow, hbudget, fun hsize p hp => ?_, starts_periods length _, fun w hw => ?_⟩
  · obtain ⟨e, he, hle⟩ := hbudget p hp
    have hmem : e ∈ answers ps := List.mem_reverse.mpr (List.mem_flatMap.mpr ⟨p, hp, he⟩)
    rw [← hanswers] at hmem
    have hcall : e.1 ∈ calls := by
      rw [← map_fst_trace (ofLength length) calls]
      exact List.mem_map_of_mem (List.mem_of_mem_filter hmem)
    exact Nat.lt_of_le_of_lt hle (hsize e.1 hcall)
  · exact standing_of_window? hw

end MarketDesk.RateLimiter

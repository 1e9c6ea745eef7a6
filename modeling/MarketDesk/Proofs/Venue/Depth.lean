import MarketDesk.Proofs.Decimal.Normal
import MarketDesk.Proofs.Json.Decode
import MarketDesk.Venue.Depth
import Mathlib.Tactic.MkIffOfInductiveProp

/-!
# What becomes of market depth

A level is idle if its amount is read as zero. A book is made of the other levels, bids and asks,
exactly if all of them stand for a price and an amount above zero: it has those levels in the order
of the venue and nothing else. If some do not, the first of them is told, bids before asks and a
price before its amount.
-/

namespace MarketDesk

namespace Decimal

/-- The number that a text gives without the blanks at its ends. -/
def readTrimmed (s : String) : Except Unreadable Decimal := parseChars (Text.trim s.toList)

/-- A text gives a number above zero. -/
def GivesPositive (s : String) (d : Decimal) : Prop := readTrimmed s = .ok d ∧ 0 < d.coefficient

/-- Why a text gives no number above zero. -/
@[mk_iff]
inductive RefusedAs (s : String) : NotPositive → Prop
  | unreadable {cause : Unreadable} (h : readTrimmed s = .error cause) :
      RefusedAs s (.unreadable cause)
  | nonPositive {d : Decimal} (h : readTrimmed s = .ok d) (hle : d.coefficient ≤ 0) :
      RefusedAs s (.nonPositive d)

theorem parsePositive_eq_ok_iff {s : String} {d : Decimal} :
    parsePositive s = .ok d ↔ GivesPositive s d := by
  rw [GivesPositive, ← isPositive_iff, parsePositive, ← readTrimmed]
  cases readTrimmed s with
  | error cause => simp
  | ok d' => cases hpositive : d'.isPositive <;> grind

theorem parsePositive_eq_error_iff {s : String} {cause : NotPositive} :
    parsePositive s = .error cause ↔ RefusedAs s cause := by
  rw [refusedAs_iff, parsePositive, ← readTrimmed]
  simp only [← Int.not_lt, ← isPositive_iff]
  cases readTrimmed s with
  | error e => grind
  | ok d => cases hpositive : d.isPositive <;> grind

end Decimal

namespace Depth

open Decimal

variable {raw : String × String} {raws : List (String × String)}

/-- Nothing is on offer at a level whose amount is zero, with a sign or without. -/
def IsIdle (raw : String × String) : Prop := ∃ d, readTrimmed raw.2 = .ok d ∧ d.coefficient = 0

/-- The level that two texts stand for. -/
@[mk_iff]
structure Gives (raw : String × String) (l : Level) : Prop where
  price : GivesPositive raw.1 l.price
  amount : GivesPositive raw.2 l.amount

/-- Why two texts stand for no level. The price is read before the amount. -/
@[mk_iff]
inductive Offends (raw : String × String) : LevelError → Prop
  | price {cause : NotPositive} (h : RefusedAs raw.1 cause) : Offends raw (.price raw.1 cause)
  | amount {price : Decimal} {cause : NotPositive} (hprice : GivesPositive raw.1 price)
      (h : RefusedAs raw.2 cause) : Offends raw (.amount raw.2 cause)

/-- A level that is not idle and not two numbers above zero either. -/
def IsBad (raw : String × String) : Prop := ¬IsIdle raw ∧ ¬∃ l, Gives raw l

theorem isZeroAmount_iff (raw : String × String) : isZeroAmount raw.2 = true ↔ IsIdle raw := by
  rw [isZeroAmount, ← readTrimmed, IsIdle]
  cases readTrimmed raw.2 with
  | error cause => exact iff_of_false nofun fun ⟨_, h, _⟩ => nomatch h
  | ok d =>
    dsimp only
    rw [isZero_iff]
    exact ⟨fun h => ⟨d, rfl, h⟩, fun ⟨_, h, hzero⟩ => Except.ok.inj h ▸ hzero⟩

theorem readLevel_eq_ok_iff {l : Level} : readLevel raw = .ok l ↔ Gives raw l := by
  rw [gives_iff, ← parsePositive_eq_ok_iff, ← parsePositive_eq_ok_iff, readLevel]
  cases parsePositive raw.1 with
  | error cause => simp
  | ok price =>
    cases parsePositive raw.2 with
    | error cause => simp
    | ok amount => cases l; simp

theorem readLevel_eq_error_iff {e : LevelError} : readLevel raw = .error e ↔ Offends raw e := by
  simp only [offends_iff, ← parsePositive_eq_error_iff, ← parsePositive_eq_ok_iff, readLevel]
  cases parsePositive raw.1 with
  | error cause => grind
  | ok price => grind

theorem isOk_readLevel_iff : (readLevel raw).isOk = true ↔ ∃ l, Gives raw l := by
  simp only [← readLevel_eq_ok_iff]
  cases readLevel raw with
  | error e => exact iff_of_false nofun nofun
  | ok l => exact iff_of_true rfl ⟨l, rfl⟩

instance : DecidablePred IsIdle := fun raw => decidable_of_iff _ (isZeroAmount_iff raw)

instance : DecidablePred IsBad := fun raw =>
  decidable_of_iff (¬IsIdle raw ∧ ¬(readLevel raw).isOk = true) (by rw [isOk_readLevel_iff, IsBad])

/-- The levels that are not idle are read one by one. -/
theorem readLevels_eq_mapM (raws : List (String × String)) :
    readLevels raws = (raws.filter fun raw => ¬IsIdle raw).mapM readLevel := by
  induction raws with
  | nil => rfl
  | cons raw rest ih =>
    rw [readLevels, List.filter_cons, ih]
    by_cases hidle : IsIdle raw
    · rw [if_pos ((isZeroAmount_iff raw).mpr hidle), if_neg (by simpa using hidle)]
    · rw [if_neg (mt (isZeroAmount_iff raw).mp hidle), if_pos (decide_eq_true hidle),
        List.mapM_cons]
      cases readLevel raw with
      | error e => rfl
      | ok l => cases (rest.filter fun raw => ¬IsIdle raw).mapM readLevel <;> rfl

theorem readLevels_append (xs ys : List (String × String)) :
    readLevels (xs ++ ys) = (do return (← readLevels xs) ++ (← readLevels ys)) := by
  simp only [readLevels_eq_mapM, List.filter_append, List.mapM_append]

theorem readLevels_eq_error_iff {e : LevelError} : readLevels raws = .error e ↔
    ∃ raw, raws.find? (fun raw => IsBad raw) = some raw ∧ Offends raw e := by
  have hbad (raw : String × String) :
      decide (decide (¬IsIdle raw) = true ∧ (!(readLevel raw).isOk) = true) =
        decide (IsBad raw) := by
    rw [decide_eq_decide, decide_eq_true_iff, Bool.not_eq_true', ← Bool.not_eq_true,
      isOk_readLevel_iff, IsBad]
  simp only [readLevels_eq_mapM, Except.mapM_eq_error_iff, List.find?_filter, hbad,
    readLevel_eq_error_iff]

/-- Levels are read exactly if none of them is bad. -/
theorem exists_readLevels_iff : (∃ levels, readLevels raws = .ok levels) ↔
    ∀ raw ∈ raws, ¬IsIdle raw → ∃ l, Gives raw l := by
  have hnone : raws.find? (fun raw => IsBad raw) = none ↔
      ∀ raw ∈ raws, ¬IsIdle raw → ∃ l, Gives raw l := by
    simp only [List.find?_eq_none, decide_eq_true_iff]
    simp only [IsBad, not_and, not_not]
  rw [← hnone]
  cases hread : readLevels raws with
  | error e =>
    obtain ⟨raw, hfirst, -⟩ := readLevels_eq_error_iff.mp hread
    rw [hfirst]
    exact iff_of_false nofun nofun
  | ok levels =>
    refine iff_of_true ⟨levels, rfl⟩ ?_
    cases hfirst : raws.find? fun raw => IsBad raw with
    | none => rfl
    | some raw =>
      have hbad : IsBad raw := by simpa using List.find?_some hfirst
      cases hlevel : readLevel raw with
      | ok l => exact absurd ⟨l, readLevel_eq_ok_iff.mp hlevel⟩ hbad.2
      | error e =>
        have herror := readLevels_eq_error_iff.mpr ⟨raw, hfirst, readLevel_eq_error_iff.mp hlevel⟩
        exact nomatch hread.symm.trans herror

/-- The prices of a side stand in an order, as far as they can be read. -/
def InOrder (R : Decimal → Decimal → Prop) (raws : List (String × String)) : Prop :=
  raws.Pairwise fun raw raw' =>
    ∀ x y, readTrimmed raw.1 = .ok x → readTrimmed raw'.1 = .ok y → R x y

/-- What is kept of a side: a level for each one that is not idle, in the order of the venue. The
first of them is the best, and the prices stay in any order in which they were. -/
structure Kept (raws : List (String × String)) (levels : List Level) (best : Option Level) :
    Prop where
  each : List.Forall₂ Gives (raws.filter fun raw => ¬IsIdle raw) levels
  best : Option.Rel Gives (raws.find? fun raw => ¬IsIdle raw) best
  sorted : ∀ R, InOrder R raws → levels.Pairwise fun l l' => R l.price l'.price

theorem InOrder.levels {R : Decimal → Decimal → Prop} {levels : List Level} (h : InOrder R raws)
    (hgives : List.Forall₂ Gives raws levels) : levels.Pairwise fun l l' => R l.price l'.price := by
  rw [InOrder, List.pairwise_iff_getElem] at h
  rw [List.pairwise_iff_getElem]
  intro i j hi hj hij
  have hlength := hgives.length_eq
  have hfirst := hgives.get (hlength ▸ hi) hi
  have hsecond := hgives.get (hlength ▸ hj) hj
  exact h i j (hlength ▸ hi) (hlength ▸ hj) hij _ _ hfirst.price.1 hsecond.price.1

theorem readLevels_eq_ok_iff {levels : List Level} :
    readLevels raws = .ok levels ↔ Kept raws levels levels.head? := by
  simp only [readLevels_eq_mapM, Except.mapM_eq_ok_iff, readLevel_eq_ok_iff]
  refine ⟨fun h => ⟨h, ?_, fun R hraws => InOrder.levels (hraws.filter _) h⟩, Kept.each⟩
  rw [← List.head?_filter]
  generalize (raws.filter fun raw => ¬IsIdle raw) = live at h
  cases h with
  | nil => exact .none
  | cons hfirst => exact .some hfirst

section Snapshot

variable (d : Depth) (pair : CurrencyPair) (now : Instant)

theorem toSnapshot_eq_ok_iff (s : Snapshot) : d.toSnapshot pair now = .ok s ↔
    s.pair = pair ∧ s.lastUpdated = now ∧ readLevels d.bids = .ok s.bids ∧
      readLevels d.asks = .ok s.asks := by
  unfold toSnapshot
  cases readLevels d.bids with
  | error e => simp
  | ok bids =>
    cases readLevels d.asks with
    | error e => simp
    | ok asks =>
      cases s
      simp only [Except.ok.injEq, Snapshot.mk.injEq]
      grind

theorem exists_toSnapshot_iff : (∃ s, d.toSnapshot pair now = .ok s) ↔
    ∃ levels, readLevels (d.bids ++ d.asks) = .ok levels := by
  rw [readLevels_append, toSnapshot]
  cases readLevels d.bids with
  | error e => simp [bind, Except.bind]
  | ok bids => cases readLevels d.asks <;> simp [bind, Except.bind, pure, Except.pure]

theorem toSnapshot_eq_error_iff (e : VenueError) : d.toSnapshot pair now = .error e ↔
    ∃ cause, readLevels (d.bids ++ d.asks) = .error cause ∧
      e = .malformedResponse cause.message := by
  rw [readLevels_append, toSnapshot]
  cases readLevels d.bids with
  | error cause => simp [bind, Except.bind, eq_comm]
  | ok bids =>
    cases readLevels d.asks <;> simp [bind, Except.bind, pure, Except.pure, eq_comm]

/-- A book can be made if every level that is not idle stands for a price and an amount above zero.
It consists of what is kept of both sides. Otherwise the error describes the first level that is
bad, and all bids come before all asks. -/
theorem toSnapshot_exact :
    ((∃ s, d.toSnapshot pair now = .ok s) ↔
      ∀ raw ∈ d.bids ++ d.asks, ¬IsIdle raw → ∃ l, Gives raw l) ∧
    (∀ s, d.toSnapshot pair now = .ok s ↔ s.pair = pair ∧ s.lastUpdated = now ∧
      Kept d.bids s.bids s.bestBid? ∧ Kept d.asks s.asks s.bestAsk?) ∧
    ∀ e, d.toSnapshot pair now = .error e ↔ ∃ raw cause,
      (d.bids ++ d.asks).find? (fun raw => IsBad raw) = some raw ∧ Offends raw cause ∧
        e = .malformedResponse cause.message := by
  refine ⟨?_, fun s => ?_, fun e => ?_⟩
  · rw [exists_toSnapshot_iff, exists_readLevels_iff]
  · rw [toSnapshot_eq_ok_iff, readLevels_eq_ok_iff, readLevels_eq_ok_iff]
    rfl
  · simp only [toSnapshot_eq_error_iff, readLevels_eq_error_iff]
    constructor
    · rintro ⟨cause, ⟨raw, hfirst, hoffends⟩, he⟩
      exact ⟨raw, cause, hfirst, hoffends, he⟩
    · rintro ⟨raw, cause, hfirst, hoffends, he⟩
      exact ⟨cause, ⟨raw, hfirst, hoffends⟩, he⟩

end Snapshot

end Depth

end MarketDesk

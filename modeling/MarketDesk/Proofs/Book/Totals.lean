import MarketDesk.Proofs.Decimal.Rounding
import MarketDesk.Proofs.Venue.Depth

/-!
# Totals of a side

The totals of a side are sums that are rounded level by level. With each level the sum of the
amounts moves away from the exact one by at most half a unit, and the sum of what they are worth by
at most one. So a total is given as long as the exact sums stay below the bound by as much, and is
an overflow where they exceed it by as much or where one level alone is worth the ceiling. That
holds for the books that are accepted from a venue too: what is accepted has prices and amounts
above zero, of any size.
-/

namespace MarketDesk

open Decimal

namespace Level

structure Unsigned (l : Level) : Prop where
  price : l.price.negative = false
  amount : l.amount.negative = false

def worth (l : Level) : ℚ := l.amount.value * l.price.value

def amounts (levels : List Level) : ℚ := (levels.map fun l => l.amount.value).sum

def worths (levels : List Level) : ℚ := (levels.map worth).sum

theorem Unsigned.worth_nonneg {l : Level} (h : l.Unsigned) : 0 ≤ l.worth :=
  mul_nonneg (value_nonneg h.amount) (value_nonneg h.price)

theorem amounts_cons (l : Level) (levels : List Level) :
    amounts (l :: levels) = l.amount.value + amounts levels := List.sum_cons ..

theorem worths_cons (l : Level) (levels : List Level) :
    worths (l :: levels) = l.worth + worths levels := List.sum_cons ..

theorem amounts_nonneg {levels : List Level} (h : ∀ l ∈ levels, l.Unsigned) : 0 ≤ amounts levels :=
  List.sum_nonneg fun _ hx => by
    obtain ⟨l, hl, rfl⟩ := List.mem_map.mp hx
    exact value_nonneg (h l hl).amount

theorem worths_nonneg {levels : List Level} (h : ∀ l ∈ levels, l.Unsigned) : 0 ≤ worths levels :=
  List.sum_nonneg fun _ hx => by
    obtain ⟨l, hl, rfl⟩ := List.mem_map.mp hx
    exact (h l hl).worth_nonneg

end Level

namespace Total

/-- A total after some levels, by how much it is away from the exact sums. -/
structure Near (t : Total) (amount notional : ℚ) (count : Nat) : Prop where
  amount_sign : t.amount.negative = false
  notional_sign : t.notional.negative = false
  amount : |t.amount.value - amount| ≤ count / 2
  notional : |t.notional.value - notional| ≤ count

/-- Exact sums that come within the error of so many levels to the bound. -/
def Reaches (amount notional : ℚ) (count : Nat) : Prop :=
  bound ≤ amount + count / 2 ∨ bound ≤ notional + count

variable {t : Total} {amount notional : ℚ} {count : Nat}

theorem near_zero : zero.Near 0 0 0 := by
  have hvalue : Decimal.zero.value = 0 := value_of_isZero rfl
  refine ⟨rfl, rfl, ?_, ?_⟩ <;> simp [zero, hvalue]

theorem add_eq (t : Total) (l : Level) :
    t.add l =
      match t.amount.add l.amount with
      | .error e => .error e
      | .ok amount =>
          match l.amount.mul l.price with
          | .error e => .error e
          | .ok worth =>
              match t.notional.add worth with
              | .error e => .error e
              | .ok notional => .ok ⟨amount, notional⟩ := by
  unfold add
  cases t.amount.add l.amount with
  | error e => rfl
  | ok amount =>
    cases l.amount.mul l.price with
    | error e => rfl
    | ok worth =>
      cases hnotional : t.notional.add worth with
      | error e =>
        simp only [bind, Except.bind, hnotional]
      | ok notional =>
        simp only [bind, Except.bind, hnotional]
        rfl

/-- A level is added within the error of one more level, or the sums come too near to the bound. -/
theorem Near.add (h : t.Near amount notional count) {l : Level} (hl : l.Unsigned) :
    (∃ t', t.add l = .ok t' ∧ l.worth < ceiling ∧
        t'.Near (amount + l.amount.value) (notional + l.worth) (count + 1)) ∨
      (∃ e, t.add l = .error e) ∧
        Reaches (amount + l.amount.value) (notional + l.worth) (count + 1) := by
  obtain ⟨hamount_low, hamount_high⟩ := abs_le.mp h.amount
  obtain ⟨hnotional_low, hnotional_high⟩ := abs_le.mp h.notional
  have hnonneg := value_nonneg h.notional_sign
  have hceiling : ceiling = bound - 1 / 2 := rfl
  have hsum := rounds_add h.amount_sign hl.amount
  have hproduct := rounds_mul hl.amount hl.price
  rw [add_eq]
  generalize t.amount.add l.amount = sum at hsum
  generalize l.amount.mul l.price = product at hproduct
  cases hsum with
  | overflow hover =>
    refine .inr ⟨⟨_, rfl⟩, .inl ?_⟩
    push_cast
    linarith
  | @near newAmount hbelow hsign hnear =>
    cases hproduct with
    | overflow hover =>
      refine .inr ⟨⟨_, rfl⟩, .inr ?_⟩
      have hworth : l.worth = l.amount.value * l.price.value := rfl
      push_cast
      linarith
    | @near worth hworth_below hworth_sign hworth_near =>
      have htotal := rounds_add h.notional_sign hworth_sign
      obtain ⟨hworth_low, hworth_high⟩ := abs_le.mp hworth_near
      have hworth : l.worth = l.amount.value * l.price.value := rfl
      dsimp only
      generalize t.notional.add worth = total at htotal
      cases htotal with
      | overflow hover =>
        refine .inr ⟨⟨_, rfl⟩, .inr ?_⟩
        push_cast
        linarith
      | @near newNotional htotal_below htotal_sign htotal_near =>
        refine .inl ⟨⟨newAmount, newNotional⟩, rfl, hworth_below, hsign, htotal_sign, ?_, ?_⟩
        · rw [abs_le] at hnear ⊢
          push_cast
          constructor <;> linarith
        · rw [abs_le] at htotal_near ⊢
          push_cast
          constructor <;> linarith

/-- All levels are added within the error of their number, or somewhere the sums come too near to
the bound, and then they are there at the end too. -/
theorem Near.addAll (h : t.Near amount notional count) {levels : List Level}
    (hlevels : ∀ l ∈ levels, l.Unsigned) :
    (∃ t', t.addAll levels = .ok t' ∧ (∀ l ∈ levels, l.worth < ceiling) ∧
        t'.Near (amount + Level.amounts levels) (notional + Level.worths levels)
          (count + levels.length)) ∨
      (∃ e, t.addAll levels = .error e) ∧
        Reaches (amount + Level.amounts levels) (notional + Level.worths levels)
          (count + levels.length) := by
  induction levels generalizing t amount notional count with
  | nil =>
    refine .inl ⟨t, rfl, nofun, ?_⟩
    simpa [Level.amounts, Level.worths] using h
  | cons l rest ih =>
    obtain ⟨hl, hrest⟩ := List.forall_mem_cons.mp hlevels
    rw [Level.amounts_cons, Level.worths_cons, ← add_assoc, ← add_assoc, List.length_cons,
      Nat.add_comm rest.length 1, ← Nat.add_assoc]
    rcases h.add hl with ⟨t', hadd, hworth, hnear⟩ | ⟨⟨e, hadd⟩, hreaches⟩
    · have hstep : t.addAll (l :: rest) = t'.addAll rest := by rw [addAll, hadd]
      rw [hstep]
      rcases ih hnear hrest with ⟨t'', hall, hworths, hnear'⟩ | hfailed
      · exact .inl ⟨t'', hall, List.forall_mem_cons.mpr ⟨hworth, hworths⟩, hnear'⟩
      · exact .inr hfailed
    · refine .inr ⟨⟨e, by rw [addAll, hadd]⟩, ?_⟩
      have hamounts := Level.amounts_nonneg hrest
      have hworths := Level.worths_nonneg hrest
      have hcount : (0 : ℚ) ≤ rest.length := Nat.cast_nonneg _
      rcases hreaches with hreached | hreached
      · left
        push_cast at hreached ⊢
        linarith
      · right
        push_cast at hreached ⊢
        linarith

/-- The total of some levels: it is near to the exact sums, and no level is worth the ceiling, or it
is an overflow, and the exact sums come near to the bound. -/
theorem ofLevels_near {levels : List Level} (h : ∀ l ∈ levels, l.Unsigned) :
    (∃ t, ofLevels levels = .ok t ∧ (∀ l ∈ levels, l.worth < ceiling) ∧
        t.Near (Level.amounts levels) (Level.worths levels) levels.length) ∨
      (∃ e, ofLevels levels = .error e) ∧
        Reaches (Level.amounts levels) (Level.worths levels) levels.length := by
  have hall := near_zero.addAll h
  rwa [zero_add, zero_add, Nat.zero_add] at hall

/-- A total that is given stays below the bound, and so do the exact sums, but for the error. -/
theorem Near.below (h : t.Near amount notional count) :
    amount < bound + count / 2 ∧ notional < bound + count := by
  have hamount := value_lt_ceiling h.amount_sign
  have hnotional := value_lt_ceiling h.notional_sign
  have hceiling : ceiling = bound - 1 / 2 := rfl
  have hamount_near := abs_le.mp h.amount
  have hnotional_near := abs_le.mp h.notional
  constructor <;> linarith

end Total

namespace Depth

theorem unsigned_of_readLevels {raws : List (String × String)} {levels : List Level}
    (h : readLevels raws = .ok levels) : ∀ l ∈ levels, l.Unsigned := by
  intro l hl
  obtain ⟨i, hi, rfl⟩ := List.getElem_of_mem hl
  have heach := (readLevels_eq_ok_iff.mp h).each
  have hgives := heach.get (heach.length_eq ▸ hi) hi
  exact ⟨unsigned_of_isPositive ((isPositive_iff _).mpr hgives.price.2),
    unsigned_of_isPositive ((isPositive_iff _).mpr hgives.amount.2)⟩

theorem unsigned_of_toSnapshot {d : Depth} {pair : CurrencyPair} {now : Instant} {s : Snapshot}
    (h : d.toSnapshot pair now = .ok s) :
    (∀ l ∈ s.bids, l.Unsigned) ∧ ∀ l ∈ s.asks, l.Unsigned := by
  obtain ⟨-, -, hbids, hasks⟩ := (d.toSnapshot_eq_ok_iff pair now s).mp h
  exact ⟨unsigned_of_readLevels hbids, unsigned_of_readLevels hasks⟩

/-- The totals of a book that was accepted. A side whose exact sums stay below the bound, by half a
unit for each level and by one, has a total that is as near to them; a side that exceeds the bound
by as much, or has one level worth the ceiling, has none. -/
theorem totals_of_accepted {d : Depth} {pair : CurrencyPair} {now : Instant} {s : Snapshot}
    (h : d.toSnapshot pair now = .ok s) :
    ∀ side ∈ [(s.bids, s.totalBids), (s.asks, s.totalAsks)],
      (Level.amounts side.1 + side.1.length / 2 < bound →
        Level.worths side.1 + side.1.length < bound →
          ∃ t, side.2 = .ok t ∧ |t.amount.value - Level.amounts side.1| ≤ side.1.length / 2 ∧
            |t.notional.value - Level.worths side.1| ≤ side.1.length) ∧
      (bound + side.1.length / 2 ≤ Level.amounts side.1 ∨
        bound + side.1.length ≤ Level.worths side.1 ∨ (∃ l ∈ side.1, ceiling ≤ l.worth) →
          ∃ e, side.2 = .error e) := by
  have hside {levels : List Level} (hlevels : ∀ l ∈ levels, l.Unsigned) :
      (Level.amounts levels + levels.length / 2 < bound →
        Level.worths levels + levels.length < bound →
          ∃ t, Total.ofLevels levels = .ok t ∧
            |t.amount.value - Level.amounts levels| ≤ levels.length / 2 ∧
            |t.notional.value - Level.worths levels| ≤ levels.length) ∧
      (bound + levels.length / 2 ≤ Level.amounts levels ∨
        bound + levels.length ≤ Level.worths levels ∨ (∃ l ∈ levels, ceiling ≤ l.worth) →
          ∃ e, Total.ofLevels levels = .error e) := by
    rcases Total.ofLevels_near hlevels with ⟨t, htotal, hworths, hnear⟩ | ⟨herror, hreaches⟩
    · refine ⟨fun _ _ => ⟨t, htotal, hnear.amount, hnear.notional⟩, fun hlarge => ?_⟩
      rcases hlarge with hamounts | hsum | ⟨l, hl, hworth⟩
      · exact absurd hnear.below.1 (not_lt.mpr hamounts)
      · exact absurd hnear.below.2 (not_lt.mpr hsum)
      · exact absurd (hworths l hl) (not_lt.mpr hworth)
    · refine ⟨fun hamounts hworths => ?_, fun _ => herror⟩
      exact (hreaches.elim hamounts.not_ge hworths.not_ge).elim
  obtain ⟨hbids, hasks⟩ := unsigned_of_toSnapshot h
  intro side hmem
  rcases List.mem_cons.mp hmem with rfl | hmem
  · exact hside hbids
  · rw [List.mem_singleton.mp hmem]
    exact hside hasks

/-- One level whose price is the greatest there is. -/
theorem totals_of_accepted_greatest :
    let d : Depth := ⟨1, [("79228162514264337593543950335", "10")], []⟩
    let price : Decimal := ⟨false, 79228162514264337593543950335, 0, by decide, by decide⟩
    let amount : Decimal := ⟨false, 10, 0, by decide, by decide⟩
    let s : Snapshot := ⟨⟨"BTC", "USDT"⟩, [⟨price, amount⟩], [], .epoch⟩
    d.toSnapshot ⟨"BTC", "USDT"⟩ .epoch = .ok s ∧ ∃ e, s.totalBids = .error e := by
  intro d price amount s
  have haccepted : d.toSnapshot ⟨"BTC", "USDT"⟩ .epoch = .ok s := rfl
  have hworth : ceiling ≤ Level.worth ⟨price, amount⟩ := by
    norm_num [Level.worth, value, coefficient, tenTo, ceiling, bound, price, amount]
  exact ⟨haccepted, (totals_of_accepted haccepted _ List.mem_cons_self).2
    (.inr (.inr ⟨_, List.mem_cons_self, hworth⟩))⟩

/-- A book is accepted by its levels, one at a time, and may have a total that overflows. -/
theorem accepted_total_overflows : ∃ (d : Depth) (pair : CurrencyPair) (now : Instant)
    (s : Snapshot), d.toSnapshot pair now = .ok s ∧ s.totalBids = .error .multiplication :=
  ⟨⟨1, [("79228162514264337593543950335", "10")], []⟩, ⟨"BTC", "USDT"⟩, .epoch,
    ⟨⟨"BTC", "USDT"⟩, [⟨⟨false, 79228162514264337593543950335, 0, by decide, by decide⟩,
      ⟨false, 10, 0, by decide, by decide⟩⟩], [], .epoch⟩, rfl, by decide +kernel⟩

end Depth

end MarketDesk

import MarketDesk.Decimal.Basic
import MarketDesk.Proofs.Decimal.Normal
import Mathlib.Data.Rat.Lemmas
import Mathlib.Tactic.FieldSimp
import Mathlib.Tactic.Linarith
import Mathlib.Tactic.Positivity

/-!
# Rounded sums and products

Sums and products of decimals without a sign are rounded to a decimal at most half a unit away from
the exact result, or overflow. They overflow exactly if the result is not below the ceiling, which
is half a unit below the bound: a result there would be rounded to the bound, since the number below
the bound is odd.
-/

namespace MarketDesk.Decimal

/-- The number that a decimal denotes. -/
def value (d : Decimal) : ℚ := d.coefficient / tenTo d.scale

/-- The least number that is rounded to the bound. -/
def ceiling : ℚ := bound - 1 / 2

/-- What comes of a calculation whose exact result is not negative. -/
inductive Rounds (exact : ℚ) (e : Overflow) : Except Overflow Decimal → Prop
  | overflow (h : ceiling ≤ exact) : Rounds exact e (.error e)
  | near {d : Decimal} (h : exact < ceiling) (hsign : d.negative = false)
      (hnear : |d.value - exact| ≤ 1 / 2) : Rounds exact e (.ok d)

section Rounding

variable (n k : Nat)

theorem tenTo_rat_pos (k : Nat) : (0 : ℚ) < tenTo k := Nat.cast_pos.mpr (tenTo_pos k)

/-- An even number is reached from half a unit below it on. -/
theorem le_roundEven_iff {m : Nat} (heven : m % 2 = 0) (hpos : 0 < m) :
    m ≤ roundEven n k ↔ (2 * m - 1) * tenTo k ≤ 2 * n := by
  have hdivide := Nat.div_add_mod n (tenTo k)
  have hremainder := Nat.mod_lt n (tenTo_pos k)
  unfold roundEven
  generalize n / tenTo k = quotient at *
  generalize n % tenTo k = remainder at *
  generalize tenTo k = unit at *
  rw [Nat.mul_comm] at hdivide
  obtain ⟨h, rfl⟩ : ∃ h, m = h + 1 := ⟨m - 1, by omega⟩
  have hproduct : (2 * (h + 1) - 1) * unit = 2 * (h * unit) + unit := by
    rw [show 2 * (h + 1) - 1 = 2 * h + 1 by omega, Nat.add_mul, Nat.mul_assoc, Nat.one_mul]
  rw [hproduct, ← hdivide]
  dsimp only
  rcases Nat.lt_trichotomy quotient h with hless | rfl | hmore
  · have hbelow : quotient * unit + unit ≤ h * unit := by
      rw [← Nat.succ_mul]
      exact Nat.mul_le_mul_right unit hless
    refine iff_of_false ?_ (by omega)
    split <;> omega
  · split <;> omega
  · have habove : h * unit + unit ≤ quotient * unit := by
      rw [← Nat.succ_mul]
      exact Nat.mul_le_mul_right unit hmore
    refine iff_of_true ?_ (by omega)
    split <;> omega

theorem roundEven_near : |(roundEven n k : ℚ) - n / tenTo k| ≤ 1 / 2 := by
  have hdivide := Nat.div_add_mod n (tenTo k)
  have hremainder := Nat.mod_lt n (tenTo_pos k)
  have hnat : 2 * (roundEven n k * tenTo k) ≤ 2 * n + tenTo k ∧
      2 * n ≤ 2 * (roundEven n k * tenTo k) + tenTo k := by
    unfold roundEven
    generalize n / tenTo k = quotient at *
    generalize n % tenTo k = remainder at *
    generalize tenTo k = unit at *
    rw [Nat.mul_comm] at hdivide
    dsimp only
    split
    · rw [Nat.add_mul, Nat.one_mul]
      omega
    · omega
  have hunit := tenTo_rat_pos k
  have habove : 2 * ((roundEven n k : ℚ) * tenTo k) ≤ 2 * n + tenTo k := by exact_mod_cast hnat.1
  have hbelow : 2 * (n : ℚ) ≤ 2 * (roundEven n k * tenTo k) + tenTo k := by exact_mod_cast hnat.2
  have hscaled : ((roundEven n k : ℚ) - n / tenTo k) * tenTo k = roundEven n k * tenTo k - n := by
    field_simp
  rw [abs_le]
  constructor <;> nlinarith

variable (negative : Bool) (scale : Nat)

/-- Where the whole number does not fit, no fraction of it does. -/
theorem fit?_eq_none_iff :
    fit? negative n scale = none ↔ (2 * bound - 1) * tenTo scale ≤ 2 * n := by
  have hbound (k : Nat) : bound ≤ roundEven n k ↔ (2 * bound - 1) * tenTo k ≤ 2 * n :=
    le_roundEven_iff n k (by decide) (by decide)
  rw [fit?, List.findSome?_eq_none_iff]
  constructor
  · intro h
    have hwhole := h scale (List.mem_range.mpr (Nat.lt_succ_self scale))
    rw [← hbound, ← Nat.not_lt]
    intro hfits
    rw [ofParts?, dif_pos ⟨hfits, by omega⟩] at hwhole
    exact nomatch hwhole
  · intro h k hk
    have hless : tenTo k ≤ tenTo scale :=
      Nat.pow_le_pow_right (by decide) (Nat.lt_succ_iff.mp (List.mem_range.mp hk))
    have htoo : bound ≤ roundEven n k :=
      (hbound k).mpr (Nat.le_trans (Nat.mul_le_mul_left _ hless) h)
    exact dif_neg fun hfits => Nat.not_lt.mpr htoo hfits.1

variable {n negative scale} in
theorem exists_of_fit? {d : Decimal} (h : fit? negative n scale = some d) : ∃ k ≤ scale,
    d.negative = negative ∧ d.magnitude = roundEven n k ∧ d.scale = scale - k := by
  obtain ⟨k, hk, hparts⟩ := List.exists_of_findSome?_eq_some h
  unfold ofParts? at hparts
  split at hparts
  · exact ⟨k, Nat.lt_succ_iff.mp (List.mem_range.mp hk), Option.some.inj hparts ▸ ⟨rfl, rfl, rfl⟩⟩
  · exact absurd hparts.symm (Option.some_ne_none d)

theorem value_of_unsigned {d : Decimal} (h : d.negative = false) :
    d.value = d.magnitude / tenTo d.scale := by
  rw [value, coefficient, h, if_neg Bool.false_ne_true, Int.cast_natCast]

theorem unsigned_of_isPositive {d : Decimal} (h : d.isPositive = true) : d.negative = false := by
  rw [isPositive, Bool.and_eq_true, Bool.not_eq_true'] at h
  exact h.1

theorem value_nonneg {d : Decimal} (h : d.negative = false) : 0 ≤ d.value := by
  rw [value_of_unsigned h]
  positivity

theorem value_lt_ceiling {d : Decimal} (h : d.negative = false) : d.value < ceiling := by
  have hmagnitude : (d.magnitude : ℚ) ≤ bound - 1 := by
    have hle := Nat.le_sub_one_of_lt d.magnitude_lt
    have hcast : (d.magnitude : ℚ) ≤ (bound - 1 : Nat) := Nat.cast_le.mpr hle
    rwa [Nat.cast_sub (by decide), Nat.cast_one] at hcast
  have hvalue : d.value ≤ d.magnitude := by
    rw [value_of_unsigned h]
    exact div_le_self (Nat.cast_nonneg _) (Nat.one_le_cast.mpr (tenTo_pos _))
  rw [ceiling]
  linarith

/-- A decimal that fits an exact number lies at most half a unit away. -/
theorem rounds_fit? (e : Overflow) :
    Rounds (n / tenTo scale) e ((fit? false n scale).elim (.error e) .ok) := by
  have hodd : ((2 * bound - 1 : Nat) : ℚ) = 2 * bound - 1 := by
    rw [Nat.cast_sub (by decide), Nat.cast_mul, Nat.cast_ofNat, Nat.cast_one]
  have hceiling : (2 * bound - 1) * tenTo scale ≤ 2 * n ↔ ceiling ≤ n / tenTo scale := by
    rw [le_div_iff₀ (tenTo_rat_pos scale), ceiling, ← Nat.cast_le (α := ℚ), Nat.cast_mul, hodd,
      Nat.cast_mul, Nat.cast_ofNat]
    constructor <;> intro h <;> linarith
  cases hfit : fit? false n scale with
  | none => exact .overflow (hceiling.mp ((fit?_eq_none_iff n false scale).mp hfit))
  | some d =>
    have hbelow : (n : ℚ) / tenTo scale < ceiling := by
      rw [← not_le, ← hceiling, ← fit?_eq_none_iff n false scale, hfit]
      exact Option.some_ne_none d
    obtain ⟨k, hk, hsign, hmagnitude, hscale⟩ := exists_of_fit? hfit
    have hsplit : (tenTo scale : ℚ) = tenTo (scale - k) * tenTo k := by
      rw [← Nat.cast_mul, ← tenTo_add, Nat.sub_add_cancel hk]
    have hrest := tenTo_rat_pos (scale - k)
    have hdropped := tenTo_rat_pos k
    have hdifference : d.value - n / tenTo scale =
        (roundEven n k - n / tenTo k) / tenTo (scale - k) := by
      rw [value_of_unsigned hsign, hmagnitude, hscale, hsplit]
      field_simp
    refine .near hbelow hsign ?_
    rw [hdifference, abs_div, abs_of_pos hrest]
    exact (div_le_self (abs_nonneg _) (Nat.one_le_cast.mpr (tenTo_pos _))).trans
      (roundEven_near n k)

end Rounding

section Operations

variable {x y : Decimal} (hx : x.negative = false) (hy : y.negative = false)

theorem coefficient_of_unsigned {d : Decimal} (h : d.negative = false) :
    d.coefficient = d.magnitude := by
  rw [coefficient, h, if_neg Bool.false_ne_true]

theorem value_of_isZero {d : Decimal} (h : d.isZero = true) : d.value = 0 := by
  rw [value, d.isZero_iff.mp h, Int.cast_zero, zero_div]

/-- A decimal over a unit that is fine enough for it. -/
theorem value_eq_div {d : Decimal} (h : d.negative = false) {scale : Nat}
    (hscale : d.scale ≤ scale) :
    d.value = ((d.magnitude * tenTo (scale - d.scale) : Nat) : ℚ) / tenTo scale := by
  have hsplit : (tenTo scale : ℚ) = tenTo d.scale * tenTo (scale - d.scale) := by
    rw [← Nat.cast_mul, ← tenTo_add, Nat.add_sub_cancel' hscale]
  rw [value_of_unsigned h, hsplit, Nat.cast_mul, mul_div_mul_right _ _ (tenTo_rat_pos _).ne']

/-- Two magnitudes added, in units of the last digit of the finer decimal. -/
def alignedSum (x y : Decimal) : Nat :=
  x.magnitude * tenTo (max x.scale y.scale - x.scale) +
    y.magnitude * tenTo (max x.scale y.scale - y.scale)

theorem rounds_zero {exact : ℚ} (hnonneg : 0 ≤ exact) (hsmall : exact ≤ 1 / 2) (e : Overflow) :
    Rounds exact e (.ok zero) := by
  have hvalue : zero.value = 0 := value_of_isZero rfl
  have hceiling : (1 : ℚ) ≤ ceiling := by rw [ceiling, bound]; norm_num
  refine .near (by linarith) rfl ?_
  rw [hvalue, zero_sub, abs_neg, abs_of_nonneg hnonneg]
  exact hsmall

theorem Rounds.withoutZeroSign {exact : ℚ} {e : Overflow} {d : Decimal}
    (h : Rounds exact e (.ok d)) : Rounds exact e (.ok d.withoutZeroSign) := by
  cases h with
  | near hbelow hsign hnear =>
    have hvalue : d.withoutZeroSign.value = d.value := by
      rw [value, coefficient_withoutZeroSign, value]
      rfl
    exact .near hbelow (by simp [Decimal.withoutZeroSign, hsign]) (hvalue ▸ hnear)

theorem rounds_self (hx : x.negative = false) (e : Overflow) : Rounds x.value e (.ok x) :=
  .near (value_lt_ceiling hx) hx (by rw [sub_self, abs_zero]; norm_num)

include hx hy

theorem value_add_eq_div :
    x.value + y.value = (alignedSum x y : ℚ) / tenTo (max x.scale y.scale) := by
  rw [value_eq_div hx (Nat.le_max_left ..), value_eq_div hy (Nat.le_max_right ..), ← add_div,
    ← Nat.cast_add]
  rfl

theorem add_eq_fit? (hxzero : x.isZero = false) (hyzero : y.isZero = false) :
    x.add y = (fit? false (alignedSum x y) (max x.scale y.scale)).elim (.error .addition) .ok := by
  have hsum : x.coefficient * tenTo (max x.scale y.scale - x.scale) +
      y.coefficient * tenTo (max x.scale y.scale - y.scale) = (alignedSum x y : Int) := by
    rw [coefficient_of_unsigned hx, coefficient_of_unsigned hy]
    exact_mod_cast rfl
  have hsign : decide ((alignedSum x y : Int) < 0) = false := decide_eq_false (by omega)
  rw [add, hxzero, hyzero]
  dsimp only
  rw [if_neg Bool.false_ne_true, if_neg Bool.false_ne_true, hsum, hsign, Int.natAbs_natCast]
  cases fit? false (alignedSum x y) (max x.scale y.scale) <;> rfl

theorem rounds_add : Rounds (x.value + y.value) .addition (x.add y) := by
  cases hxzero : x.isZero with
  | true =>
    have hadd : x.add y = .ok y := if_pos hxzero
    rw [hadd, value_of_isZero hxzero, zero_add]
    exact rounds_self hy _
  | false =>
    cases hyzero : y.isZero with
    | true =>
      have hadd : x.add y = .ok x := by rw [add, hxzero, if_neg Bool.false_ne_true, if_pos hyzero]
      rw [hadd, value_of_isZero hyzero, add_zero]
      exact rounds_self hx _
    | false =>
      rw [value_add_eq_div hx hy, add_eq_fit? hx hy hxzero hyzero]
      exact rounds_fit? (alignedSum x y) (max x.scale y.scale) .addition

theorem rounds_mul : Rounds (x.value * y.value) .multiplication (x.mul y) := by
  have hvalue : x.value * y.value =
      ((x.magnitude * y.magnitude : Nat) : ℚ) / tenTo (x.scale + y.scale) := by
    rw [value_of_unsigned hx, value_of_unsigned hy, tenTo_add, Nat.cast_mul, Nat.cast_mul,
      div_mul_div_comm]
  rw [mul]
  split
  · next hsmall =>
    refine rounds_zero (mul_nonneg (value_nonneg hx) (value_nonneg hy)) ?_ _
    rw [Bool.or_eq_true, Bool.or_eq_true, Bool.and_eq_true, areNarrow, Bool.and_eq_true,
      decide_eq_true_eq, decide_eq_true_eq, decide_eq_true_eq] at hsmall
    rcases hsmall with (hzero | hzero) | ⟨⟨hxsize, hysize⟩, hscale⟩
    · rw [value_of_isZero hzero, zero_mul]
      norm_num
    · rw [value_of_isZero hzero, mul_zero]
      norm_num
    · have hproduct : x.magnitude * y.magnitude ≤ UInt32.size * UInt32.size :=
        Nat.mul_le_mul hxsize.le hysize.le
      have hunit : tenTo 48 ≤ tenTo (x.scale + y.scale) :=
        Nat.pow_le_pow_right (by decide) hscale
      have hnat : 2 * (x.magnitude * y.magnitude) ≤ tenTo (x.scale + y.scale) := by
        have hsize : 2 * (UInt32.size * UInt32.size) ≤ tenTo 48 := by decide
        omega
      have hcast : 2 * ((x.magnitude * y.magnitude : Nat) : ℚ) ≤ tenTo (x.scale + y.scale) := by
        exact_mod_cast hnat
      rw [hvalue, div_le_iff₀ (tenTo_rat_pos _)]
      linarith
  · have hsign : (x.negative != y.negative) = false := by rw [hx, hy]; rfl
    rw [hsign, hvalue]
    have hrounds := rounds_fit? (x.magnitude * y.magnitude) (x.scale + y.scale) .multiplication
    cases hfit : fit? false (x.magnitude * y.magnitude) (x.scale + y.scale) with
    | none => rwa [hfit] at hrounds
    | some d =>
      rw [hfit] at hrounds
      dsimp only at hrounds ⊢
      split
      · exact hrounds.withoutZeroSign
      · exact hrounds

end Operations

end MarketDesk.Decimal

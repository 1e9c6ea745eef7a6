import MarketDesk.Proofs.Decimal.Rounding

/-!
# Exact sums and products

Nothing is rounded as long as a result has at most 28 digits after the point and stays below the
bound with all of them. A sum then has the digits of the finer of its terms, and a product those of
both factors.
-/

namespace MarketDesk.Decimal

theorem isPositive_iff_value (d : Decimal) : d.isPositive = true ↔ 0 < d.value := by
  rw [isPositive_iff, value, div_pos_iff_of_pos_right (tenTo_rat_pos d.scale), Int.cast_pos]

theorem roundEven_zero (n : Nat) : roundEven n 0 = n := by
  have hunit : tenTo 0 = 1 := rfl
  simp [roundEven, hunit, Nat.mod_one]

/-- No digit is dropped where none has to be. -/
theorem fit?_of_lt (negative : Bool) {n scale : Nat} (hn : n < bound) (hscale : scale ≤ 28) :
    fit? negative n scale = some ⟨negative, n, scale, hn, hscale⟩ := by
  have hwhole : ofParts? negative (roundEven n 0) (scale - 0) =
      some ⟨negative, n, scale, hn, hscale⟩ := by
    rw [roundEven_zero, Nat.sub_zero]
    exact dif_pos ⟨hn, hscale⟩
  rw [fit?, List.range_succ_eq_map, List.findSome?_cons_of_isSome]
  all_goals rw [hwhole]
  rfl

/-- A decimal without a sign that denotes a number with so many digits after the point. -/
structure Writes (d : Decimal) (exact : ℚ) (scale : Nat) : Prop where
  sign : d.negative = false
  value : d.value = exact
  scale : d.scale = scale

namespace Writes

variable {x y : Decimal} {p q : ℚ} {j k : Nat}

theorem magnitude (h : x.Writes p j) : (x.magnitude : ℚ) = p * tenTo j := by
  rw [← h.value, value_of_unsigned h.sign, h.scale, div_mul_cancel₀ _ (tenTo_rat_pos j).ne']

/-- A number and its digits after the point leave one decimal. -/
theorem unique (hx : x.Writes p j) (hy : y.Writes p j) : x = y := by
  have hmagnitude : (x.magnitude : ℚ) = y.magnitude := hx.magnitude.trans hy.magnitude.symm
  exact eq_of_parts (hx.sign.trans hy.sign.symm) (by exact_mod_cast hmagnitude)
    (hx.scale.trans hy.scale.symm)

theorem isZero (h : x.Writes p j) (hp : 0 < p) : x.isZero = false := by
  have hpositive : x.isPositive = true := x.isPositive_iff_value.mpr (h.value ▸ hp)
  rw [isPositive, Bool.and_eq_true, Bool.not_eq_true', Bool.not_eq_true'] at hpositive
  exact hpositive.2

theorem of_parts {n scale : Nat} (hn : n < bound) (hscale : scale ≤ 28)
    (h : (n : ℚ) = p * tenTo scale) : Writes ⟨false, n, scale, hn, hscale⟩ p scale where
  sign := rfl
  value := by
    rw [value_of_unsigned rfl, div_eq_iff (tenTo_rat_pos scale).ne']
    exact h
  scale := rfl

/-- A sum is exact if it stays below the bound in units of the finer term. A sum that is still zero
must have no digits after the point, since a zero leaves the other term as it is. -/
theorem add (hx : x.Writes p j) (hy : y.Writes q k) (hp : 0 ≤ p) (hj : p = 0 → j = 0) (hq : 0 < q)
    (hsum : (p + q) * tenTo (max j k) < bound) :
    ∃ d, x.add y = .ok d ∧ d.Writes (p + q) (max j k) := by
  rcases hp.eq_or_lt' with hzero | hpos
  · have hmagnitude : (x.magnitude : ℚ) = 0 := by rw [hx.magnitude, hzero, zero_mul]
    have hempty : x.isZero = true := beq_iff_eq.mpr (by exact_mod_cast hmagnitude)
    refine ⟨y, if_pos hempty, ?_⟩
    rwa [hzero, hj hzero, zero_add, Nat.zero_max]
  · let scale := max x.scale y.scale
    have hmax : scale = max j k := by rw [← hx.scale, ← hy.scale]
    have hexact : (alignedSum x y : ℚ) = (p + q) * tenTo scale := by
      rw [← hx.value, ← hy.value, value_add_eq_div hx.sign hy.sign,
        div_mul_cancel₀ _ (tenTo_rat_pos scale).ne']
    have hfits : alignedSum x y < bound := by
      rw [← hmax, ← hexact] at hsum
      exact_mod_cast hsum
    have hscale : scale ≤ 28 := Nat.max_le.mpr ⟨x.scale_le, y.scale_le⟩
    refine ⟨⟨false, alignedSum x y, scale, hfits, hscale⟩, ?_, hmax ▸ of_parts hfits hscale hexact⟩
    rw [add_eq_fit? hx.sign hy.sign (hx.isZero hpos) (hy.isZero hq), fit?_of_lt false hfits hscale,
      Option.elim_some]

/-- A product is exact if it stays below the bound in units of its last digit. -/
theorem mul (hx : x.Writes p j) (hy : y.Writes q k) (hp : 0 < p) (hq : 0 < q) (hscale : j + k ≤ 28)
    (hproduct : p * q * tenTo (j + k) < bound) :
    ∃ d, x.mul y = .ok d ∧ d.Writes (p * q) (j + k) := by
  have hexact : ((x.magnitude * y.magnitude : Nat) : ℚ) = p * q * tenTo (j + k) := by
    rw [Nat.cast_mul, hx.magnitude, hy.magnitude, tenTo_add, Nat.cast_mul,
      mul_mul_mul_comm]
  have hfits : x.magnitude * y.magnitude < bound := by
    rw [← hexact] at hproduct
    exact_mod_cast hproduct
  have hwide : decide (47 < j + k) = false := decide_eq_false (by omega)
  have hwrites := of_parts hfits hscale hexact
  refine ⟨⟨false, x.magnitude * y.magnitude, j + k, hfits, hscale⟩, ?_, hwrites⟩
  rw [Decimal.mul, hx.isZero hp, hy.isZero hq, hx.sign, hy.sign, hx.scale, hy.scale, hwide,
    Bool.and_false, Bool.or_false, Bool.or_false, if_neg Bool.false_ne_true, bne_self_eq_false,
    fit?_of_lt false hfits hscale]
  exact congrArg Except.ok (ite_self _)

end Writes

theorem writes_self {d : Decimal} (h : 0 < d.value) : d.Writes d.value d.scale :=
  ⟨unsigned_of_isPositive (d.isPositive_iff_value.mpr h), rfl, rfl⟩

theorem writes_zero : zero.Writes 0 0 := ⟨rfl, value_of_isZero rfl, rfl⟩

end MarketDesk.Decimal

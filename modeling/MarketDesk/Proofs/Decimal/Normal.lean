import MarketDesk.Proofs.Decimal.Text

/-!
# Normal forms of decimals

Dropping the zeros at the end of the fraction leaves one decimal of each size: two decimals have the
same normal form, and the same text of it, exactly if they compare as equal.
-/

namespace MarketDesk.Decimal

theorem tenTo_pos (k : Nat) : 0 < tenTo k := Nat.pow_pos (by decide)

theorem natCast_tenTo_ne_zero (k : Nat) : (tenTo k : Int) ≠ 0 :=
  Int.natCast_ne_zero.mpr (Nat.ne_of_gt (tenTo_pos k))

theorem tenTo_succ (k : Nat) : tenTo (k + 1) = tenTo k * 10 := rfl

theorem tenTo_add (m n : Nat) : tenTo (m + n) = tenTo m * tenTo n := Nat.pow_add 10 m n

/-- As many factors of ten are taken out as digits of the fraction go. -/
theorem stripZeros_eq (magnitude scale : Nat) : ∃ k,
    magnitude = (stripZeros magnitude scale).1 * tenTo k ∧
      scale = (stripZeros magnitude scale).2 + k := by
  induction scale generalizing magnitude with
  | zero => exact ⟨0, (Nat.mul_one magnitude).symm, rfl⟩
  | succ scale ih =>
    unfold stripZeros
    split
    · next hten =>
      obtain ⟨k, hmagnitude, hscale⟩ := ih (magnitude / 10)
      refine ⟨k + 1, ?_, by omega⟩
      rw [tenTo_succ, ← Nat.mul_assoc, ← hmagnitude]
      omega
    · exact ⟨0, (Nat.mul_one magnitude).symm, rfl⟩

/-- A magnitude and a scale without a zero at the end of the fraction. -/
def Stripped (magnitude scale : Nat) : Prop := scale = 0 ∨ magnitude % 10 ≠ 0

theorem stripped_stripZeros (magnitude scale : Nat) :
    Stripped (stripZeros magnitude scale).1 (stripZeros magnitude scale).2 := by
  induction scale generalizing magnitude with
  | zero => exact Or.inl rfl
  | succ scale ih =>
    unfold stripZeros
    split
    · exact ih (magnitude / 10)
    · next hten => exact Or.inr hten

theorem Stripped.eq_of_le {m n s t : Nat} (hn : Stripped n t) (hle : s ≤ t)
    (h : m * tenTo t = n * tenTo s) : m = n ∧ s = t := by
  obtain ⟨k, rfl⟩ := Nat.exists_eq_add_of_le hle
  rw [tenTo_add, Nat.mul_comm (tenTo s), ← Nat.mul_assoc] at h
  have hmn : m * tenTo k = n := Nat.eq_of_mul_eq_mul_right (tenTo_pos s) h
  cases k with
  | zero => exact ⟨(Nat.mul_one m).symm.trans hmn, rfl⟩
  | succ k =>
    -- The finer of the two would end in a zero.
    rw [tenTo_succ, ← Nat.mul_assoc] at hmn
    rcases hn with hs | hten
    · omega
    · exact absurd (hmn ▸ Nat.mul_mod_left _ 10) hten

theorem Stripped.unique {m n s t : Nat} (hm : Stripped m s) (hn : Stripped n t)
    (h : m * tenTo t = n * tenTo s) : m = n ∧ s = t := by
  rcases Nat.le_total s t with hle | hle
  · exact hn.eq_of_le hle h
  · have hsymm := hm.eq_of_le hle h.symm
    exact ⟨hsymm.1.symm, hsymm.2.symm⟩

theorem eq_of_parts {x y : Decimal} (hnegative : x.negative = y.negative)
    (hmagnitude : x.magnitude = y.magnitude) (hscale : x.scale = y.scale) : x = y := by
  cases x
  cases y
  simp only [Decimal.mk.injEq]
  exact ⟨hnegative, hmagnitude, hscale⟩

theorem natAbs_coefficient (d : Decimal) : d.coefficient.natAbs = d.magnitude := by
  unfold coefficient
  split <;> omega

theorem isZero_iff (d : Decimal) : d.isZero = true ↔ d.coefficient = 0 := by
  unfold isZero coefficient
  split <;> simp

theorem coefficient_neg_iff (d : Decimal) :
    d.coefficient < 0 ↔ (d.negative && !d.isZero) = true := by
  unfold coefficient isZero
  cases d.negative with
  | false => simp
  | true => simp; omega

/-- Two decimals that denote one number, with however many zeros at the end. -/
def SameSize (x y : Decimal) : Prop := x.compareSize y = .eq

theorem sameSize_iff {x y : Decimal} :
    x.SameSize y ↔ x.coefficient * tenTo y.scale = y.coefficient * tenTo x.scale :=
  Std.compare_eq_iff_eq

theorem SameSize.symm {x y : Decimal} (h : x.SameSize y) : y.SameSize x :=
  sameSize_iff.mpr (sameSize_iff.mp h).symm

theorem SameSize.trans {x y z : Decimal} (hxy : x.SameSize y) (hyz : y.SameSize z) :
    x.SameSize z := by
  rw [sameSize_iff] at hxy hyz ⊢
  apply Int.eq_of_mul_eq_mul_right (natCast_tenTo_ne_zero y.scale)
  calc x.coefficient * tenTo z.scale * tenTo y.scale
      = x.coefficient * tenTo y.scale * tenTo z.scale := Int.mul_right_comm ..
    _ = y.coefficient * tenTo z.scale * tenTo x.scale := by rw [hxy, Int.mul_right_comm]
    _ = z.coefficient * tenTo x.scale * tenTo y.scale := by rw [hyz, Int.mul_right_comm]

theorem withoutZeroSign_normalize (d : Decimal) : d.normalize.withoutZeroSign = d.normalize := by
  refine eq_of_parts ?_ rfl rfl
  simp only [normalize, withoutZeroSign, isZero, Bool.and_assoc, Bool.and_self]

theorem coefficient_normalize (d : Decimal) : ∃ k,
    d.coefficient = d.normalize.coefficient * tenTo k ∧ d.scale = d.normalize.scale + k := by
  obtain ⟨k, hmagnitude, hscale⟩ := stripZeros_eq d.magnitude d.scale
  refine ⟨k, ?_, hscale⟩
  rw [normalize, coefficient_withoutZeroSign]
  unfold coefficient
  dsimp only
  split
  · rw [Int.neg_mul, ← Int.natCast_mul, ← hmagnitude]
  · rw [← Int.natCast_mul, ← hmagnitude]

theorem sameSize_normalize (d : Decimal) : d.SameSize d.normalize := by
  obtain ⟨k, hcoefficient, hscale⟩ := d.coefficient_normalize
  rw [sameSize_iff, hcoefficient, hscale, tenTo_add, Int.natCast_mul, Int.mul_assoc,
    Int.mul_comm (tenTo k : Int)]

/-- Two normal forms of one size are the same. -/
theorem normalize_eq_of_sameSize {x y : Decimal} (h : x.normalize.SameSize y.normalize) :
    x.normalize = y.normalize := by
  rw [sameSize_iff] at h
  have habs : x.normalize.magnitude * tenTo y.normalize.scale =
      y.normalize.magnitude * tenTo x.normalize.scale := by
    have hnat := congrArg Int.natAbs h
    rwa [Int.natAbs_mul, Int.natAbs_mul, natAbs_coefficient, natAbs_coefficient, Int.natAbs_natCast,
      Int.natAbs_natCast] at hnat
  obtain ⟨hmagnitude, hscale⟩ := (stripped_stripZeros x.magnitude x.scale).unique
    (stripped_stripZeros y.magnitude y.scale) habs
  refine eq_of_parts ?_ hmagnitude hscale
  have hscales : x.normalize.scale = y.normalize.scale := hscale
  rw [hscales] at h
  have hcoefficient : x.normalize.coefficient = y.normalize.coefficient :=
    Int.eq_of_mul_eq_mul_right (natCast_tenTo_ne_zero _) h
  have hsign (d : Decimal) : d.normalize.negative = true ↔ d.normalize.coefficient < 0 := by
    have hnormal : (d.normalize.negative && !d.normalize.isZero) = d.normalize.negative :=
      congrArg negative d.withoutZeroSign_normalize
    rw [coefficient_neg_iff, hnormal]
  rw [Bool.eq_iff_iff, hsign, hsign, hcoefficient]

theorem normalize_eq_iff {x y : Decimal} : x.normalize = y.normalize ↔ x.SameSize y := by
  constructor
  · intro h
    exact (h ▸ sameSize_normalize x).trans (sameSize_normalize y).symm
  · intro h
    exact normalize_eq_of_sameSize
      (((sameSize_normalize x).symm.trans h).trans (sameSize_normalize y))

theorem toText_normalize_eq_iff {x y : Decimal} :
    x.normalize.toText = y.normalize.toText ↔ x.SameSize y := by
  rw [← normalize_eq_iff]
  constructor
  · intro h
    have hread := congrArg parse h
    rw [parse_toText, parse_toText, withoutZeroSign_normalize, withoutZeroSign_normalize] at hread
    exact Except.ok.inj hread
  · exact congrArg toText

end MarketDesk.Decimal

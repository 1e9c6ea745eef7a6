import MarketDesk.Proofs.Book.Totals
import MarketDesk.Proofs.Decimal.Exact
import Mathlib.Algebra.Order.BigOperators.Group.List

/-!
# Exact totals

Nothing is rounded in the total of a side whose exact sums stay below the bound in units of the last
digit that any of its levels has: the total is the sums, with the digits of the finest level. The
sums only grow from level to level, so what holds of them at the end holds on the way as well, in
any order of the levels and for any part of them.
-/

namespace MarketDesk

open Decimal

namespace Level

/-- The most digits after the point that an amount has. -/
def amountDigits (levels : List Level) : Nat := (levels.map fun l => l.amount.scale).foldr max 0

/-- The most digits after the point that the worth of a level has. -/
def worthDigits (levels : List Level) : Nat :=
  (levels.map fun l => l.amount.scale + l.price.scale).foldr max 0

/-- Levels above zero whose sums fit into decimals with all their digits. -/
structure Fits (levels : List Level) : Prop where
  price_pos : ∀ l ∈ levels, 0 < l.price.value
  amount_pos : ∀ l ∈ levels, 0 < l.amount.value
  digits_le : worthDigits levels ≤ 28
  amounts_lt : amounts levels * tenTo (amountDigits levels) < bound
  worths_lt : worths levels * tenTo (worthDigits levels) < bound

theorem amounts_append (xs ys : List Level) : amounts (xs ++ ys) = amounts xs + amounts ys := by
  rw [amounts, List.map_append, List.sum_append]
  rfl

theorem worths_append (xs ys : List Level) : worths (xs ++ ys) = worths xs + worths ys := by
  rw [worths, List.map_append, List.sum_append]
  rfl

/-! What levels count for, one by one, with the digits that each of them needs. -/

section Columns

variable (f : Level → ℚ) (digits : Level → Nat) {xs ys : List Level}

theorem foldr_max_mono (h : xs ⊆ ys) :
    (xs.map digits).foldr max 0 ≤ (ys.map digits).foldr max 0 :=
  List.max_le_of_forall_le _ _ fun _ hx => List.le_max_of_le (List.map_subset digits h hx) le_rfl

theorem foldr_max_concat (xs : List Level) (l : Level) :
    ((xs ++ [l]).map digits).foldr max 0 = max ((xs.map digits).foldr max 0) (digits l) := by
  induction xs with
  | nil => exact Nat.max_comm ..
  | cons x xs ih =>
    rw [List.cons_append, List.map_cons, List.foldr_cons, ih, List.map_cons, List.foldr_cons,
      Nat.max_assoc]

variable {f}

/-- Fewer levels have a smaller sum, in larger units. -/
theorem sum_units_mono (hsub : xs.Sublist ys) (hpos : ∀ l ∈ ys, 0 < f l) :
    (xs.map f).sum * tenTo ((xs.map digits).foldr max 0) ≤
      (ys.map f).sum * tenTo ((ys.map digits).foldr max 0) := by
  have hnonneg : ∀ a ∈ ys.map f, 0 ≤ a := List.forall_mem_map.mpr fun l hl => (hpos l hl).le
  have hunit : (tenTo ((xs.map digits).foldr max 0) : ℚ) ≤ tenTo ((ys.map digits).foldr max 0) :=
    Nat.cast_le.mpr (Nat.pow_le_pow_right (by decide) (foldr_max_mono digits hsub.subset))
  exact mul_le_mul ((hsub.map f).sum_le_sum hnonneg) hunit (tenTo_rat_pos _).le
    (List.sum_nonneg hnonneg)

/-- A sum is zero only before the first level, and then it has no digits. -/
theorem foldr_max_of_sum_eq_zero (hpos : ∀ l ∈ xs, 0 < f l) (hsum : (xs.map f).sum = 0) :
    (xs.map digits).foldr max 0 = 0 := by
  cases xs with
  | nil => rfl
  | cons l rest =>
    have hsum_pos := List.sum_pos _ (List.forall_mem_map.mpr hpos) (List.cons_ne_nil _ _)
    exact absurd hsum hsum_pos.ne'

variable {digits}

/-- An exact sum stays exact with one more level if it still fits. -/
theorem exists_writes_concat {x y : Decimal} {l : Level}
    (hx : x.Writes (xs.map f).sum ((xs.map digits).foldr max 0)) (hy : y.Writes (f l) (digits l))
    (hpos : ∀ x ∈ xs ++ [l], 0 < f x)
    (hlt : ((xs ++ [l]).map f).sum * tenTo (((xs ++ [l]).map digits).foldr max 0) < bound) :
    ∃ d, x.add y = .ok d ∧
      d.Writes ((xs ++ [l]).map f).sum (((xs ++ [l]).map digits).foldr max 0) := by
  have hfront : ∀ l ∈ xs, 0 < f l := fun l hl => hpos l (List.mem_append_left _ hl)
  have hlast : 0 < f l := hpos l (List.mem_append_right _ List.mem_cons_self)
  have hnonneg : 0 ≤ (xs.map f).sum :=
    List.sum_nonneg (List.forall_mem_map.mpr fun l hl => (hfront l hl).le)
  have hsum : ((xs ++ [l]).map f).sum = (xs.map f).sum + f l := by
    rw [List.map_append, List.sum_append, List.map_singleton, List.sum_singleton]
  rw [hsum, foldr_max_concat] at hlt ⊢
  exact hx.add hy hnonneg (foldr_max_of_sum_eq_zero digits hfront) hlast hlt

end Columns

namespace Fits

variable {xs ys : List Level}

theorem worth_pos (h : Fits ys) : ∀ l ∈ ys, 0 < l.worth :=
  fun l hl => mul_pos (h.amount_pos l hl) (h.price_pos l hl)

/-- What fits with all its digits, fits with fewer levels. -/
theorem sublist (h : Fits ys) (hsub : xs.Sublist ys) : Fits xs where
  price_pos l hl := h.price_pos l (hsub.subset hl)
  amount_pos l hl := h.amount_pos l (hsub.subset hl)
  digits_le := (foldr_max_mono _ hsub.subset).trans h.digits_le
  amounts_lt := (sum_units_mono _ hsub h.amount_pos).trans_lt h.amounts_lt
  worths_lt := (sum_units_mono _ hsub h.worth_pos).trans_lt h.worths_lt

end Fits

theorem sums_perm {xs ys : List Level} (h : xs.Perm ys) :
    amounts xs = amounts ys ∧ amountDigits xs = amountDigits ys ∧
      worths xs = worths ys ∧ worthDigits xs = worthDigits ys :=
  ⟨(h.map _).sum_eq, (h.map _).foldr_eq 0, (h.map _).sum_eq, (h.map _).foldr_eq 0⟩

theorem Fits.perm {xs ys : List Level} (h : Fits ys) (hperm : xs.Perm ys) : Fits xs := by
  obtain ⟨hamounts, hamountDigits, hworths, hworthDigits⟩ := sums_perm hperm
  exact {
    price_pos := fun l hl => h.price_pos l (hperm.mem_iff.mp hl)
    amount_pos := fun l hl => h.amount_pos l (hperm.mem_iff.mp hl)
    digits_le := hworthDigits ▸ h.digits_le
    amounts_lt := by rw [hamounts, hamountDigits]; exact h.amounts_lt
    worths_lt := by rw [hworths, hworthDigits]; exact h.worths_lt }

end Level

namespace Total

/-- A total that is the exact sums of some levels, with the digits of the finest of them. -/
structure Exact (t : Total) (levels : List Level) : Prop where
  amount : t.amount.Writes (Level.amounts levels) (Level.amountDigits levels)
  notional : t.notional.Writes (Level.worths levels) (Level.worthDigits levels)

variable {t : Total} {front levels : List Level}

theorem exact_zero : zero.Exact [] := ⟨writes_zero, writes_zero⟩

theorem Exact.unique {t' : Total} (h : t.Exact levels) (h' : t'.Exact levels) : t = t' := by
  cases t
  cases t'
  rw [Total.mk.injEq]
  exact ⟨h.amount.unique h'.amount, h.notional.unique h'.notional⟩

theorem Exact.perm {levels' : List Level} (h : t.Exact levels) (hperm : levels.Perm levels') :
    t.Exact levels' := by
  obtain ⟨hamounts, hamountDigits, hworths, hworthDigits⟩ := Level.sums_perm hperm
  refine ⟨?_, ?_⟩
  · rw [← hamounts, ← hamountDigits]
    exact h.amount
  · rw [← hworths, ← hworthDigits]
    exact h.notional

/-- The worth of a level that fits is not rounded. -/
theorem mul_exact {l : Level} (hfits : Level.Fits [l]) :
    ∃ worth, l.amount.mul l.price = .ok worth ∧
      worth.Writes l.worth (l.amount.scale + l.price.scale) := by
  have hamount := hfits.amount_pos l List.mem_cons_self
  have hprice := hfits.price_pos l List.mem_cons_self
  have hdigits := hfits.digits_le
  have hworth := hfits.worths_lt
  rw [Level.worthDigits, List.map_singleton, List.foldr_cons, List.foldr_nil, Nat.max_zero]
    at hdigits hworth
  rw [Level.worths, List.map_singleton, List.sum_singleton] at hworth
  exact (writes_self hamount).mul (writes_self hprice) hamount hprice hdigits hworth

/-- A level more is added exactly if all levels with it fit. -/
theorem Exact.add {l : Level} (h : t.Exact front) (hfits : Level.Fits (front ++ [l])) :
    ∃ t', t.add l = .ok t' ∧ t'.Exact (front ++ [l]) := by
  have hlast : Level.Fits [l] := hfits.sublist (List.sublist_append_right ..)
  have hown := writes_self (hlast.amount_pos l List.mem_cons_self)
  obtain ⟨amount, hadd_amount, hamount⟩ :=
    Level.exists_writes_concat h.amount hown hfits.amount_pos hfits.amounts_lt
  obtain ⟨worth, hmul, hworth⟩ := mul_exact hlast
  obtain ⟨notional, hadd_notional, hnotional⟩ :=
    Level.exists_writes_concat h.notional hworth hfits.worth_pos hfits.worths_lt
  refine ⟨⟨amount, notional⟩, ?_, hamount, hnotional⟩
  rw [add_eq, hadd_amount, hmul]
  dsimp only
  rw [hadd_notional]

/-- Levels are added exactly one after another, since what has been added fits at each of them. -/
theorem Exact.addAll (h : t.Exact front) (hfits : Level.Fits (front ++ levels)) :
    ∃ t', t.addAll levels = .ok t' ∧ t'.Exact (front ++ levels) := by
  induction levels generalizing t front with
  | nil => exact ⟨t, rfl, (List.append_nil front).symm ▸ h⟩
  | cons l rest ih =>
    rw [List.append_cons] at hfits ⊢
    obtain ⟨t', hadd, hexact⟩ := h.add (hfits.sublist (List.sublist_append_left ..))
    obtain ⟨t'', hall, hexact'⟩ := ih hexact hfits
    exact ⟨t'', by rw [Total.addAll, hadd]; exact hall, hexact'⟩

theorem ofLevels_exact (hfits : Level.Fits levels) :
    ∃ t, ofLevels levels = .ok t ∧ t.Exact levels := exact_zero.addAll hfits

/-- The total that a book gives for a side with these levels, in any order. -/
def IsOf (t : Total) (levels : List Level) : Prop :=
  ∀ s : Snapshot, (s.bids.Perm levels → s.totalBids = .ok t) ∧
    (s.asks.Perm levels → s.totalAsks = .ok t)

theorem exists_isOf (hfits : Level.Fits levels) : ∃ t : Total, t.Exact levels ∧ t.IsOf levels := by
  obtain ⟨t, -, hexact⟩ := ofLevels_exact hfits
  have hside {side : List Level} (hperm : side.Perm levels) : ofLevels side = .ok t := by
    obtain ⟨t', htotal, hexact'⟩ := ofLevels_exact (hfits.perm hperm)
    rw [htotal, (hexact'.perm hperm).unique hexact]
  exact ⟨t, hexact, fun s => ⟨hside, hside⟩⟩

/-- Levels that fit have a total, which is their exact sums, with no rounding on the way. It is the
same in any order of the levels, and the sum of the totals of any two parts. -/
theorem totals_exact (hfits : Level.Fits levels) :
    ∃ t : Total, t.Exact levels ∧ t.IsOf levels ∧
      (∀ l ∈ levels, ∃ worth, l.amount.mul l.price = .ok worth ∧ worth.value = l.worth) ∧
      ∀ front back, levels = front ++ back →
        ∃ t₁ t₂ : Total, t₁.Exact front ∧ t₁.IsOf front ∧ t₂.Exact back ∧ t₂.IsOf back ∧
          t.amount.value = t₁.amount.value + t₂.amount.value ∧
          t.notional.value = t₁.notional.value + t₂.notional.value := by
  obtain ⟨t, hexact, hof⟩ := exists_isOf hfits
  refine ⟨t, hexact, hof, fun l hl => ?_, ?_⟩
  · obtain ⟨worth, hmul, hworth⟩ := mul_exact (hfits.sublist (List.singleton_sublist.mpr hl))
    exact ⟨worth, hmul, hworth.value⟩
  · rintro front back rfl
    obtain ⟨t₁, hexact₁, hof₁⟩ := exists_isOf (hfits.sublist (List.sublist_append_left ..))
    obtain ⟨t₂, hexact₂, hof₂⟩ := exists_isOf (hfits.sublist (List.sublist_append_right ..))
    refine ⟨t₁, t₂, hexact₁, hof₁, hexact₂, hof₂, ?_, ?_⟩
    · rw [hexact.amount.value, hexact₁.amount.value, hexact₂.amount.value, Level.amounts_append]
    · rw [hexact.notional.value, hexact₁.notional.value, hexact₂.notional.value,
        Level.worths_append]

/-- Two levels of different digits whose amounts add up to the greatest number with one digit after
the point. -/
theorem totals_exact_greatest :
    let levels : List Level :=
      [⟨⟨false, 1, 1, by decide, by decide⟩,
        ⟨false, 7922816251426433759354395032, 0, by decide, by decide⟩⟩,
      ⟨⟨false, 2, 0, by decide, by decide⟩, ⟨false, 15, 1, by decide, by decide⟩⟩]
    Level.Fits levels ∧ ∃ t : Total, t.IsOf levels ∧ t.amount.value = (bound - 1) / 10 ∧
      t.notional.value = 7922816251426433759354395062 / 10 := by
  intro levels
  have hamounts : Level.amounts levels = (bound - 1) / 10 := by
    norm_num [Level.amounts, levels, value, coefficient, tenTo, bound]
  have hworths : Level.worths levels = 7922816251426433759354395062 / 10 := by
    norm_num [Level.worths, Level.worth, levels, value, coefficient, tenTo]
  have hfits : Level.Fits levels := by
    refine ⟨?_, ?_, by decide, ?_, ?_⟩
    · norm_num [levels, value, coefficient, tenTo]
    · norm_num [levels, value, coefficient, tenTo]
    · have hdigits : Level.amountDigits levels = 1 := rfl
      norm_num [hamounts, hdigits, tenTo, bound]
    · have hdigits : Level.worthDigits levels = 1 := rfl
      norm_num [hworths, hdigits, tenTo, bound]
  obtain ⟨t, hexact, hof, -⟩ := totals_exact hfits
  exact ⟨hfits, t, hof, hexact.amount.value.trans hamounts, hexact.notional.value.trans hworths⟩

end Total

end MarketDesk

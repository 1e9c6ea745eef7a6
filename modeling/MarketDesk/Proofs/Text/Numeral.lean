import MarketDesk.Text.Basic

/-!
# Numbers read off their digits

A text of digits is the text of one number only, with or without a minus sign in front, and begins
with a zero only if the number is zero. Adding digits to a number never makes it smaller, and zeros
alone denote zero. The digits in front of a text are told from it by its first character.
-/

namespace MarketDesk.Text

theorem isDigit_of_mem_digits {n : Nat} {c : Char} (h : c ∈ digits n) : c.isDigit = true :=
  Nat.isDigit_of_mem_toDigits (by decide) (by decide) h

theorem digits_inj {m n : Nat} : digits m = digits n ↔ m = n := by
  constructor
  · intro h
    rw [← ofDigitChars_digits m, h, ofDigitChars_digits]
  · rintro rfl
    rfl

theorem natText_inj {m n : Nat} : natText m = natText n ↔ m = n := by
  rw [natText, natText, String.ofList_inj, digits_inj]

theorem minus_notMem_digits (n : Nat) : '-' ∉ digits n := fun h =>
  absurd (isDigit_of_mem_digits h) (by decide)

/-- The sign of a number is whether its text begins with a minus. -/
theorem head?_signedDigits (n : Int) : (signedDigits n).head? = some '-' ↔ n < 0 := by
  unfold signedDigits
  split
  · next h => simp only [List.head?_cons, h]
  · next h =>
    refine iff_of_false (fun hhead => ?_) h
    exact minus_notMem_digits n.natAbs (List.mem_of_mem_head? hhead)

theorem signedDigits_inj {m n : Int} : signedDigits m = signedDigits n ↔ m = n := by
  constructor
  · intro h
    have hsign : m < 0 ↔ n < 0 := by rw [← head?_signedDigits, h, head?_signedDigits]
    have habs : m.natAbs = n.natAbs := by
      unfold signedDigits at h
      by_cases hm : m < 0
      · rw [if_pos hm, if_pos (hsign.mp hm), List.cons.injEq] at h
        exact digits_inj.mp h.2
      · rw [if_neg hm, if_neg (fun hn => hm (hsign.mpr hn))] at h
        exact digits_inj.mp h
    omega
  · rintro rfl
    rfl

theorem integerText_inj {m n : Int} : integerText m = integerText n ↔ m = n := by
  rw [integerText, integerText, String.ofList_inj, signedDigits_inj]

theorem head?_digits_eq_zero {n : Nat} (h : (digits n).head? = some '0') : n = 0 := by
  induction n using Nat.strongRecOn with
  | ind n ih =>
    rw [digits] at h
    by_cases hsmall : n < 10
    · rw [Nat.toDigits_of_lt_base hsmall, List.head?_cons, Option.some.injEq] at h
      exact Nat.digitChar_eq_zero.mp h
    · rw [Nat.toDigits_of_base_le (by decide) (Nat.le_of_not_lt hsmall), List.head?_append,
        List.head?_eq_some_head Nat.toDigits_ne_nil, Option.some_or,
        ← List.head?_eq_some_head Nat.toDigits_ne_nil] at h
      have hzero := ih (n / 10) (by omega) h
      omega

/-- A number that stands in front of this text does not go on with another digit. -/
def NoDigit (rest : List Char) : Prop := ∀ c, rest.head? = some c → c.isDigit = false

theorem noDigit_nil : NoDigit [] := nofun

theorem noDigit_cons {c : Char} (h : c.isDigit = false) (rest : List Char) : NoDigit (c :: rest) :=
  fun _ hd => Option.some.inj hd ▸ h

theorem NoDigit.take {rest : List Char} (h : NoDigit rest) (n : Nat) : NoDigit (rest.take n) := by
  intro c hc
  rw [List.head?_take] at hc
  split at hc
  · exact nomatch hc
  · exact h c hc

theorem takeWhile_digits {ds rest : List Char} (h : ∀ c ∈ ds, c.isDigit = true)
    (hrest : NoDigit rest) :
    (ds ++ rest).takeWhile Char.isDigit = ds ∧ (ds ++ rest).dropWhile Char.isDigit = rest := by
  rw [List.takeWhile_append_of_pos h, List.dropWhile_append_of_pos h]
  cases rest with
  | nil => simp
  | cons c rest =>
    have hc : ¬c.isDigit = true := Bool.eq_false_iff.mp (hrest c rfl)
    rw [List.takeWhile_cons_of_neg hc, List.dropWhile_cons_of_neg hc, List.append_nil]
    exact ⟨rfl, rfl⟩

theorem le_ofDigitChars (ds : List Char) (n : Nat) : n ≤ Nat.ofDigitChars 10 ds n := by
  induction ds generalizing n with
  | nil => exact Nat.le_refl n
  | cons c ds ih =>
    rw [Nat.ofDigitChars_cons]
    have hrest := ih (10 * n + (c.toNat - '0'.toNat))
    omega

theorem ofDigitChars_zeros (n : Nat) : Nat.ofDigitChars 10 (List.replicate n '0') 0 = 0 := by
  induction n with
  | zero => rfl
  | succ n ih =>
    rw [List.replicate_succ, Nat.ofDigitChars_cons]
    exact ih

end MarketDesk.Text

import MarketDesk.Decimal.Text
import MarketDesk.Proofs.Text.Numeral

/-!
# Reading written decimals

A written decimal is a sign, digits before the point and as many digits after it as its scale says.
No more than 28 digits stand after the point and the magnitude is below the bound, so a reader never
has to round: it gives back the decimal, except for the sign of a zero.
-/

namespace MarketDesk

theorem Text.digit?_of_isDigit {c : Char} (h : c.isDigit = true) :
    digit? c = some (c.toNat - '0'.toNat) := by
  rw [Char.isDigit, Bool.and_eq_true, decide_eq_true_eq, decide_eq_true_eq] at h
  exact if_pos h

namespace Decimal

/-- Digits that fit are read one after another, on either side of the point. -/
theorem scan_digits (begun pointed : Bool) (coefficient scale : Nat) {ds : List Char}
    (rest : List Char) (hds : ∀ c ∈ ds, c.isDigit = true)
    (hbound : Nat.ofDigitChars 10 ds coefficient < bound)
    (hscale : pointed = true → scale + ds.length ≤ 28) :
    scan begun pointed coefficient scale (ds ++ rest) =
      scan (begun || !ds.isEmpty) pointed (Nat.ofDigitChars 10 ds coefficient)
        (if pointed then scale + ds.length else scale) rest := by
  induction ds generalizing begun coefficient scale with
  | nil => simp only [List.nil_append, Nat.ofDigitChars_nil, List.isEmpty_nil, Bool.not_true,
      Bool.or_false, List.length_nil, Nat.add_zero, ite_self]
  | cons c ds ih =>
    rw [Nat.ofDigitChars_cons] at hbound ⊢
    have hfits : 10 * coefficient + (c.toNat - '0'.toNat) < bound :=
      Nat.lt_of_le_of_lt (Text.le_ofDigitChars ds _) hbound
    have hroom : ¬(pointed && scale == 28) = true := by
      rw [Bool.and_eq_true, beq_iff_eq]
      rintro ⟨hp, hs⟩
      have hlength := hscale hp
      rw [List.length_cons] at hlength
      omega
    have hnext := ih true (10 * coefficient + (c.toNat - '0'.toNat))
      (if pointed then scale + 1 else scale) (fun d hd => hds d (List.mem_cons_of_mem c hd)) hbound
    rw [List.cons_append, scan, Text.digit?_of_isDigit (hds c List.mem_cons_self)]
    dsimp only
    rw [if_neg hroom, if_pos hfits, hnext]
    · cases pointed <;> simp [Nat.add_assoc, Nat.add_comm 1]
    · intro hp
      have hlength := hscale hp
      rw [List.length_cons] at hlength
      rw [if_pos hp]
      omega

/-- The parts of a written decimal. -/
theorem toChars_eq (d : Decimal) : ∃ whole fraction : List Char,
    whole ≠ [] ∧ fraction.length = d.scale ∧ (∀ c ∈ whole ++ fraction, c.isDigit = true) ∧
      Nat.ofDigitChars 10 (whole ++ fraction) 0 = d.magnitude ∧
      d.toChars = (if d.negative then ['-'] else []) ++ whole ++
        (if d.scale = 0 then [] else '.' :: fraction) := by
  let zeros := List.replicate (d.scale + 1 - (Text.digits d.magnitude).length) '0'
  let padded := zeros ++ Text.digits d.magnitude
  have hlength : d.scale + 1 ≤ padded.length := by
    simp only [padded, zeros, List.length_append, List.length_replicate]
    omega
  have hparts : padded.take (padded.length - d.scale) ++ padded.drop (padded.length - d.scale) =
      padded := List.take_append_drop _ _
  refine ⟨padded.take (padded.length - d.scale), padded.drop (padded.length - d.scale), ?_, ?_, ?_,
    ?_, rfl⟩
  · intro hnil
    have hzero := congrArg List.length hnil
    rw [List.length_take, List.length_nil] at hzero
    omega
  · rw [List.length_drop]
    omega
  · rw [hparts]
    intro c hc
    rcases List.mem_append.mp hc with hzero | hdigit
    · rw [List.eq_of_mem_replicate hzero]
      decide
    · exact Text.isDigit_of_mem_digits hdigit
  · rw [hparts, Nat.ofDigitChars_append, Text.ofDigitChars_zeros, Text.ofDigitChars_digits]

theorem scan_parts {whole fraction : List Char} {magnitude : Nat} (hwhole : whole ≠ [])
    (hlength : fraction.length ≤ 28) (hdigits : ∀ c ∈ whole ++ fraction, c.isDigit = true)
    (hvalue : Nat.ofDigitChars 10 (whole ++ fraction) 0 = magnitude) (hbound : magnitude < bound) :
    scan false false 0 0 (whole ++ if fraction.length = 0 then [] else '.' :: fraction) =
      .ok (magnitude, fraction.length) := by
  rw [Nat.ofDigitChars_append] at hvalue
  have hfits : Nat.ofDigitChars 10 whole 0 < bound := by
    refine Nat.lt_of_le_of_lt (Text.le_ofDigitChars fraction _) ?_
    rw [hvalue]
    exact hbound
  have hbegun : (false || !whole.isEmpty) = true := by
    rw [Bool.false_or, Bool.not_eq_true', List.isEmpty_eq_false_iff]
    exact hwhole
  rw [scan_digits false false 0 0 _ (fun c hc => hdigits c (List.mem_append_left _ hc)) hfits
    (fun h => absurd h Bool.false_ne_true), hbegun]
  by_cases hzero : fraction.length = 0
  · rw [if_pos hzero, scan, if_pos rfl, if_neg Bool.false_ne_true, ← hvalue,
      List.length_eq_zero_iff.mp hzero]
    rfl
  · have hpoint : Text.digit? '.' = none := by decide
    have hfraction := scan_digits true true (Nat.ofDigitChars 10 whole 0) 0 []
      (fun c hc => hdigits c (List.mem_append_right _ hc)) (hvalue ▸ hbound)
      (fun _ => by omega)
    rw [List.append_nil, hvalue, Bool.true_or, if_pos rfl, Nat.zero_add] at hfraction
    rw [if_neg hzero, if_neg Bool.false_ne_true, scan, hpoint]
    exact hfraction

/-- A sign is read off in front of the digits. -/
theorem parsePlain_of_scan {negative : Bool} {c : Char} {cs : List Char} {magnitude scale : Nat}
    {d : Decimal} (hc : c.isDigit = true)
    (hscan : scan false false 0 0 (c :: cs) = .ok (magnitude, scale))
    (hparts : ofParts? negative magnitude scale = some d) :
    parsePlain ((if negative then ['-'] else []) ++ c :: cs) = .ok d.withoutZeroSign := by
  have hminus : c ≠ '-' := by
    rintro rfl
    exact absurd hc (by decide)
  have hplus : c ≠ '+' := by
    rintro rfl
    exact absurd hc (by decide)
  cases negative with
  | false =>
    have hsign : (c == '-') = false := beq_false_of_ne hminus
    simp [parsePlain, hsign, hplus, hscan, hparts, bind, Except.bind, pure, Except.pure]
  | true => simp [parsePlain, hscan, hparts, bind, Except.bind, pure, Except.pure]

/-- A written decimal is read back, a zero without its sign. -/
theorem parsePlain_toChars (d : Decimal) : parsePlain d.toChars = .ok d.withoutZeroSign := by
  obtain ⟨whole, fraction, hwhole, hlength, hdigits, hvalue, hchars⟩ := d.toChars_eq
  have hscan := scan_parts hwhole (hlength ▸ d.scale_le) hdigits hvalue d.magnitude_lt
  have hparts : ofParts? d.negative d.magnitude d.scale = some d :=
    dif_pos ⟨d.magnitude_lt, d.scale_le⟩
  cases whole with
  | nil => exact absurd rfl hwhole
  | cons c whole =>
    rw [hlength, List.cons_append] at hscan
    rw [hchars, List.append_assoc, List.cons_append]
    exact parsePlain_of_scan (hdigits c List.mem_cons_self) hscan hparts

theorem isExponentMark_of_mem_toChars {d : Decimal} {c : Char} (h : c ∈ d.toChars) :
    isExponentMark c = false := by
  obtain ⟨whole, fraction, -, -, hdigits, -, hchars⟩ := d.toChars_eq
  have hdigit : c.isDigit = true → isExponentMark c = false := by
    intro hc
    rw [isExponentMark, Bool.or_eq_false_iff, beq_eq_false_iff_ne, beq_eq_false_iff_ne]
    constructor
    · rintro rfl
      exact absurd hc (by decide)
    · rintro rfl
      exact absurd hc (by decide)
  rw [hchars, List.mem_append, List.mem_append] at h
  rcases h with (hsign | hwhole) | hfraction
  · split at hsign
    · rw [List.mem_singleton.mp hsign]
      rfl
    · exact nomatch hsign
  · exact hdigit (hdigits c (List.mem_append_left _ hwhole))
  · split at hfraction
    · exact nomatch hfraction
    · rcases List.mem_cons.mp hfraction with rfl | hfraction
      · rfl
      · exact hdigit (hdigits c (List.mem_append_right _ hfraction))

theorem parse_toText (d : Decimal) : parse d.toText = .ok d.withoutZeroSign := by
  have hmark : (d.toChars ++ []).dropWhile (fun c => !isExponentMark c) = [] :=
    List.dropWhile_append_of_pos fun c hc => by rw [isExponentMark_of_mem_toChars hc]; rfl
  rw [List.append_nil] at hmark
  rw [parse, toText, String.toList_ofList, parseChars, hmark]
  exact parsePlain_toChars d

end Decimal

end MarketDesk

import MarketDesk.Proofs.Text.Numeral
import MarketDesk.Time
import Mathlib.Algebra.Group.Nat.Defs
import Mathlib.Tactic.SplitIfs

/-!
# Reading written instants

An instant is written part by part: each number with the digits that its reader takes, and a mark
behind it. So every part is read off in front of the rest of the text, and the parts make the same
instant again. A leap second is written as the second 60 and read back as one.
-/

namespace MarketDesk.Rfc3339

open Text (NoDigit noDigit_cons noDigit_nil takeWhile_digits)

theorem isBlank_of_isDigit {c : Char} (h : c.isDigit = true) : Text.isBlank c = false := by
  rw [Char.isDigit, Bool.and_eq_true, decide_eq_true_eq, decide_eq_true_eq] at h
  have hlow : 48 ≤ c.toNat := h.1
  have hhigh : c.toNat ≤ 57 := h.2
  simp only [Text.isBlank, Bool.or_eq_false_iff, Bool.and_eq_false_iff, decide_eq_false_iff_not,
    beq_eq_false_iff_ne]
  omega

section Digits

/-- A number with zeros in front of it is read as the number. -/
theorem ofDigitChars_padded (width n : Nat) : Nat.ofDigitChars 10 (padded width n) 0 = n := by
  rw [padded, Nat.ofDigitChars_append, Text.ofDigitChars_zeros, Text.ofDigitChars_digits]

theorem isDigit_of_mem_padded {width n : Nat} {c : Char} (h : c ∈ padded width n) :
    c.isDigit = true := by
  rcases List.mem_append.mp h with hzero | hdigit
  · rw [List.eq_of_mem_replicate hzero]
    decide
  · exact Text.isDigit_of_mem_digits hdigit

theorem length_padded {width n : Nat} (hwidth : 0 < width) (h : n < 10 ^ width) :
    (padded width n).length = width := by
  have hdigits : (Text.digits n).length ≤ width :=
    (Nat.length_toDigits_le_iff (by decide) hwidth).mpr h
  rw [padded, List.length_append, List.length_replicate]
  omega

theorem padded_ne_nil (width n : Nat) : padded width n ≠ [] :=
  List.append_ne_nil_of_right_ne_nil _ Nat.toDigits_ne_nil

/-- Digits are read if no more than the most that the reader takes stand there. -/
theorem readNumber_append {most : Nat} {ds rest : List Char} (hne : ds ≠ [])
    (hds : ∀ c ∈ ds, c.isDigit = true) (hmost : ds.length ≤ most)
    (hrest : ds.length = most ∨ NoDigit rest) :
    readNumber most (ds ++ rest) = some (Nat.ofDigitChars 10 ds 0, rest) := by
  have hstop : NoDigit (rest.take (most - ds.length)) := by
    rcases hrest with hlength | hfirst
    · rw [hlength, Nat.sub_self, List.take_zero]
      exact noDigit_nil
    · exact hfirst.take _
  have htake : ((ds ++ rest).take most).takeWhile Char.isDigit = ds := by
    rw [List.take_append, List.take_of_length_le hmost]
    exact (takeWhile_digits hds hstop).1
  rw [readNumber, htake, if_neg (by rwa [List.isEmpty_iff]), List.drop_left]

theorem readNumber_padded {most width n : Nat} {rest : List Char} (hwidth : 0 < width)
    (hn : n < 10 ^ width) (hmost : width ≤ most) (hrest : width = most ∨ NoDigit rest) :
    readNumber most (padded width n ++ rest) = some (n, rest) := by
  have hlength := length_padded hwidth hn
  rw [readNumber_append (padded_ne_nil width n) (fun _ => isDigit_of_mem_padded)
    (by rwa [hlength]) (by rwa [hlength]), ofDigitChars_padded]

theorem trimStart_padded (width n : Nat) (rest : List Char) :
    Text.trimStart (padded width n ++ rest) = padded width n ++ rest := by
  obtain ⟨c, cs, hcs⟩ := List.exists_cons_of_ne_nil (padded_ne_nil width n)
  have hdigit : c.isDigit = true :=
    isDigit_of_mem_padded (hcs ▸ List.mem_cons_self : c ∈ padded width n)
  rw [hcs, List.cons_append]
  exact List.dropWhile_cons_of_neg (Bool.eq_false_iff.mp (isBlank_of_isDigit hdigit))

end Digits

section Parts

theorem readPart_padded {least greatest n : Nat} (hleast : least ≤ n) (hgreatest : n ≤ greatest)
    (hn : n < 100) (rest : List Char) :
    readPart least greatest (padded 2 n ++ rest) = some (n, rest) := by
  rw [readPart, trimStart_padded, readNumber_padded (by decide) hn (Nat.le_refl 2) (.inl rfl)]
  exact if_pos ⟨hleast, hgreatest⟩

theorem readMark_cons {mark : Char} (h : Text.isBlank mark = false) (rest : List Char) :
    readMark mark (mark :: rest) = some rest := by
  have htrim : Text.trimStart (mark :: rest) = mark :: rest :=
    List.dropWhile_cons_of_neg (Bool.eq_false_iff.mp h)
  rw [readMark, htrim]
  exact if_pos rfl

theorem readYear_append (year : Int) {rest : List Char} (hrest : NoDigit rest) :
    readYear (yearText year ++ rest) = some (year, rest) := by
  have hsigned : readNumber (padded 4 year.natAbs ++ rest).length
      (padded 4 year.natAbs ++ rest) = some (year.natAbs, rest) := by
    rw [readNumber_append (padded_ne_nil _ _) (fun _ => isDigit_of_mem_padded)
      (by rw [List.length_append]; omega) (.inr hrest), ofDigitChars_padded]
  rw [yearText]
  split
  · next hfour =>
    have hread : readNumber 4 (padded 4 year.toNat ++ rest) = some (year.toNat, rest) :=
      readNumber_padded (by decide) (by omega) (Nat.le_refl 4) (.inl rfl)
    obtain ⟨c, cs, hcs⟩ := List.exists_cons_of_ne_nil (padded_ne_nil 4 year.toNat)
    have hdigit : c.isDigit = true := isDigit_of_mem_padded (hcs ▸ List.mem_cons_self)
    rw [readYear, trimStart_padded]
    rw [hcs, List.cons_append] at hread ⊢
    split
    · next hminus =>
      rw [(List.cons.inj hminus).1] at hdigit
      exact absurd hdigit (by decide)
    · next hplus =>
      rw [(List.cons.inj hplus).1] at hdigit
      exact absurd hdigit (by decide)
    · simp only [hread, Option.map_some, Int.toNat_of_nonneg hfour.1]
  · next hfour =>
    by_cases hnegative : year < 0
    · rw [if_pos hnegative]
      have htrim : Text.trimStart ('-' :: (padded 4 year.natAbs ++ rest)) = '-' :: _ := rfl
      rw [List.cons_append, readYear, htrim]
      simp only [hsigned, Option.map_some, ← Int.eq_neg_natAbs_of_nonpos (Int.le_of_lt hnegative)]
    · rw [if_neg hnegative]
      have htrim : Text.trimStart ('+' :: (padded 4 year.natAbs ++ rest)) = '+' :: _ := rfl
      rw [List.cons_append, readYear, htrim]
      simp only [hsigned, Option.map_some, Int.natAbs_of_nonneg (Int.not_lt.mp hnegative)]

/-- The fraction of a second is written with as many digits as it needs. -/
theorem readNano_append {nano : Nat} (h : nano < 1000000000) :
    readNano (fractionText nano ++ ['Z']) = some (nano, ['Z']) := by
  have hpart (width n : Nat) (hwidth : 0 < width) (hmost : width ≤ 9) (hn : n < 10 ^ width) :
      readNano ('.' :: padded width n ++ ['Z']) = some (n * Nat.pow 10 (9 - width), ['Z']) := by
    have hread := readNumber_padded hwidth hn hmost (.inr (noDigit_cons (c := 'Z') rfl []))
    have hlength : (padded width n ++ ['Z']).length - ['Z'].length = width := by
      rw [List.length_append, Nat.add_sub_cancel, length_padded hwidth hn]
    rw [List.cons_append, readNano, hread]
    simp only [bind, Option.bind, pure, hlength]
    rfl
  unfold fractionText
  split
  · next hzero => rw [hzero]; rfl
  · split
    · next hmilli =>
      rw [hpart 3 _ (by decide) (by decide) (by omega)]
      have hvalue : nano / 1000000 * Nat.pow 10 (9 - 3) = nano :=
        Nat.div_mul_cancel (Nat.dvd_of_mod_eq_zero hmilli)
      rw [hvalue]
    · split
      · next hmicro =>
        rw [hpart 6 _ (by decide) (by decide) (by omega)]
        have hvalue : nano / 1000 * Nat.pow 10 (9 - 6) = nano :=
          Nat.div_mul_cancel (Nat.dvd_of_mod_eq_zero hmicro)
        rw [hvalue]
      · rw [hpart 9 _ (by decide) (by decide) (by omega)]
        exact congrArg (fun n => some (n, ['Z'])) (Nat.mul_one nano)

end Parts

/-- A time of day with no offset is that of UTC. -/
theorem ofLocal?_zero (date : Date) {second : Nat} (nano : Nat) (h : second < 86400) :
    Instant.ofLocal? date second nano 0 = Instant.ofParts? date second nano := by
  rw [Instant.ofLocal?, Int.sub_zero, if_neg (by omega), if_pos (by omega), Int.toNat_natCast]

/-- What is read off a written instant, part by part. -/
theorem parseChars?_toChars (t : Instant) : parseChars? (toChars t) =
    (Date.ofParts? t.date.year t.date.month t.date.day).bind fun date =>
      Instant.ofParts? date t.second t.nano := by
  obtain ⟨-, ⟨hmonth, hmonth'⟩, hday, hday'⟩ := t.date.valid
  have hsecond := t.second_lt
  have hnano := t.nano_lt
  have hleap := t.leap_last
  have hmonthDays : daysInMonth t.date.year t.date.month ≤ 31 := by
    unfold daysInMonth
    split_ifs <;> decide
  have hminus (rest : List Char) : NoDigit ('-' :: rest) := noDigit_cons rfl rest
  have hdash (rest : List Char) : readMark '-' ('-' :: rest) = some rest := readMark_cons rfl rest
  have hcolon (rest : List Char) : readMark ':' (':' :: rest) = some rest := readMark_cons rfl rest
  have hT (rest : List Char) : readSeparator ('T' :: rest) = some rest := rfl
  have hZ : readOffset (Text.trimStart ['Z']) = some (0, []) := by decide
  have hfraction := readNano_append (Nat.mod_lt t.nano (by decide : 0 < 1000000000))
  -- a leap second is the one place where the second that is written is not that of the instant
  have hseconds : 3600 * (t.second / 3600) + 60 * (t.second / 60 % 60) +
      (t.second % 60 + t.nano / 1000000000 - (t.second % 60 + t.nano / 1000000000 - 59)) =
        t.second := by omega
  have hnanos : t.nano % 1000000000 + 1000000000 *
      (t.second % 60 + t.nano / 1000000000 - 59) = t.nano := by omega
  rw [toChars]
  simp only [List.append_assoc, List.cons_append, List.nil_append]
  rw [parseChars?, readYear_append t.date.year (hminus _)]
  simp only [Option.bind_eq_bind, Option.bind_some, hdash, hcolon, hT, hZ, hfraction,
    readPart_padded hmonth hmonth' (by omega),
    readPart_padded hday (Nat.le_trans hday' hmonthDays) (by omega),
    readPart_padded (Nat.zero_le (t.second / 3600)) (by omega : _ ≤ 23) (by omega),
    readPart_padded (Nat.zero_le (t.second / 60 % 60)) (by omega : _ ≤ 59) (by omega),
    readPart_padded (Nat.zero_le (t.second % 60 + t.nano / 1000000000)) (by omega : _ ≤ 60)
      (by omega)]
  rw [if_neg (by decide), hseconds, hnanos]
  simp only [ofLocal?_zero _ _ hsecond]

theorem parse?_toText (t : Instant) : parse? (toText t) = some t := by
  have hdate : Date.ofParts? t.date.year t.date.month t.date.day = some t.date :=
    dif_pos t.date.valid
  have hparts : Instant.ofParts? t.date t.second t.nano = some t :=
    dif_pos ⟨t.second_lt, t.nano_lt, t.leap_last⟩
  rw [parse?, toText, String.toList_ofList, parseChars?_toChars, hdate, Option.bind_some, hparts]

end MarketDesk.Rfc3339

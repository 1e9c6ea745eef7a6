import MarketDesk.Proofs.Json.Grammar
import MarketDesk.Proofs.Text.Numeral

/-!
# Reading numbers and strings

A number or a string is read from a text exactly if it is written there and what follows cannot
belong to it: no digit, point or mark of an exponent may stand behind a number, while anything may
stand behind the closing quote of a string.
-/

namespace MarketDesk.Json

open Text (NoDigit noDigit_cons takeWhile_digits)

def continuesNumber (c : Char) : Bool := c.isDigit || c == '.' || c == 'e' || c == 'E'

/-- A number that stands in front of this text is over. -/
def Ends (rest : List Char) : Prop := ∀ c, rest.head? = some c → continuesNumber c = false

theorem ends_nil : Ends [] := nofun

theorem ends_cons {c : Char} (h : continuesNumber c = false) (rest : List Char) :
    Ends (c :: rest) := fun _ hd => Option.some.inj hd ▸ h

theorem Ends.noDigit {rest : List Char} (h : Ends rest) : NoDigit rest := by
  intro c hc
  have hends := h c hc
  simp only [continuesNumber, Bool.or_eq_false_iff] at hends
  exact hends.1.1.1

theorem Ends.head?_ne {rest : List Char} (h : Ends rest) {c : Char}
    (hc : continuesNumber c = true) : rest.head? ≠ some c :=
  fun hhead => absurd (h c hhead) (Bool.not_eq_false _ ▸ hc)

/-! ### Digits -/

theorem readDigits_append {ds rest : List Char} (h : Digits ds) (hrest : NoDigit rest) :
    readDigits (ds ++ rest) = some (ds, rest) := by
  obtain ⟨htake, hdrop⟩ := takeWhile_digits h.2 hrest
  rw [readDigits, htake, hdrop, if_neg]
  rw [List.isEmpty_iff]
  exact h.1

theorem digits_of_readDigits {cs ds rest : List Char} (h : readDigits cs = some (ds, rest)) :
    Digits ds ∧ cs = ds ++ rest := by
  unfold readDigits at h
  split at h
  · exact nomatch h
  · next hne =>
    rw [List.isEmpty_iff] at hne
    obtain ⟨rfl, rfl⟩ := Prod.mk.inj (Option.some.inj h)
    refine ⟨⟨hne, fun c hc => ?_⟩, List.takeWhile_append_dropWhile.symm⟩
    exact List.all_eq_true.mp List.all_takeWhile c hc

/-! ### Numbers -/

theorem readFraction_append {fraction cs rest : List Char} (h : FractionWritten fraction cs)
    (hrest : NoDigit rest) (hpoint : rest.head? ≠ some '.') :
    readFraction (cs ++ rest) = some (fraction, rest) := by
  cases h with
  | absent =>
    rw [List.nil_append, readFraction]
    rintro rest' rfl
    exact hpoint rfl
  | present hds => exact readDigits_append hds hrest

theorem fractionWritten_of_readFraction {cs fraction rest : List Char}
    (h : readFraction cs = some (fraction, rest)) :
    ∃ text, FractionWritten fraction text ∧ cs = text ++ rest := by
  unfold readFraction at h
  split at h
  · obtain ⟨hds, rfl⟩ := digits_of_readDigits h
    exact ⟨_, .present hds, rfl⟩
  · obtain ⟨rfl, rfl⟩ := Prod.mk.inj (Option.some.inj h)
    exact ⟨[], .absent, rfl⟩

theorem readExponent_append {exponent : Option (Bool × List Char)} {cs rest : List Char}
    (h : ExponentWritten exponent cs) (hrest : Ends rest) :
    readExponent (cs ++ rest) = some (exponent, rest) := by
  cases h with
  | absent =>
    cases rest with
    | nil => rfl
    | cons c rest =>
      have hmark : ¬(c = 'e' ∨ c = 'E') := by
        rintro (rfl | rfl)
        · exact hrest.head?_ne (by decide) rfl
        · exact hrest.head?_ne (by decide) rfl
      rw [List.nil_append, readExponent, if_neg hmark]
  | @present mark negative sign ds hmark hsign hds =>
    have hread := readDigits_append hds hrest.noDigit
    rw [List.cons_append, readExponent, if_pos hmark, List.append_assoc]
    cases hsign with
    | absent =>
      obtain ⟨d, ds, rfl⟩ := List.exists_cons_of_ne_nil hds.1
      have hd : d.isDigit = true := hds.2 d List.mem_cons_self
      have hminus : d ≠ '-' := fun hd' => absurd (hd' ▸ hd) (by decide)
      have hplus : d ≠ '+' := fun hd' => absurd (hd' ▸ hd) (by decide)
      simp only [List.nil_append, List.cons_append] at hread ⊢
      simp [hread, hminus, hplus]
    | plus => simp [hread]
    | minus => simp [hread]

/-- A sign that is there is taken off. -/
theorem signWritten_head (cs : List Char) : ∃ sign, SignWritten (cs.head? == some '-') sign ∧
    cs = sign ++ if (cs.head? == some '-' || cs.head? == some '+') = true then cs.tail else cs := by
  cases cs with
  | nil => exact ⟨[], .absent, rfl⟩
  | cons c rest =>
    by_cases hminus : c = '-'
    · subst hminus
      exact ⟨['-'], .minus, rfl⟩
    · by_cases hplus : c = '+'
      · subst hplus
        exact ⟨['+'], .plus, rfl⟩
      · refine ⟨[], ?_, ?_⟩
        · rw [List.head?_cons, beq_false_of_ne (by simpa using hminus)]
          exact .absent
        · simp [hminus, hplus]

theorem exponentWritten_of_readExponent {cs rest : List Char}
    {exponent : Option (Bool × List Char)} (h : readExponent cs = some (exponent, rest)) :
    ∃ text, ExponentWritten exponent text ∧ cs = text ++ rest := by
  unfold readExponent at h
  split at h
  · obtain ⟨rfl, rfl⟩ := Prod.mk.inj (Option.some.inj h)
    exact ⟨[], .absent, rfl⟩
  · next c cs =>
    split at h
    · next hmark =>
      obtain ⟨⟨ds, after⟩, hread, heq⟩ := Option.map_eq_some_iff.mp h
      obtain ⟨rfl, rfl⟩ := Prod.mk.inj heq
      obtain ⟨hds, htail⟩ := digits_of_readDigits hread
      obtain ⟨sign, hsign, hcs⟩ := signWritten_head cs
      rw [htail] at hcs
      exact ⟨c :: (sign ++ ds), .present hmark hsign hds, by rw [hcs]; simp⟩
    · obtain ⟨rfl, rfl⟩ := Prod.mk.inj (Option.some.inj h)
      exact ⟨[], .absent, rfl⟩

/-- What stands behind the whole part of a number is no digit. -/
theorem noDigit_of_written {fraction cs text rest : List Char}
    {exponent : Option (Bool × List Char)} (hfraction : FractionWritten fraction cs)
    (hexponent : ExponentWritten exponent text) (hrest : Ends rest) :
    NoDigit (cs ++ (text ++ rest)) ∧ NoDigit (text ++ rest) ∧ (text ++ rest).head? ≠ some '.' := by
  have hbehind : NoDigit (text ++ rest) ∧ (text ++ rest).head? ≠ some '.' := by
    cases hexponent with
    | absent => exact ⟨hrest.noDigit, hrest.head?_ne (by decide)⟩
    | present hmark hsign hds =>
      rcases hmark with rfl | rfl
      · exact ⟨noDigit_cons rfl _, by simp⟩
      · exact ⟨noDigit_cons rfl _, by simp⟩
  refine ⟨?_, hbehind⟩
  cases hfraction with
  | absent => exact hbehind.1
  | present hds => exact noDigit_cons rfl _

theorem readNumber_eq_some_iff {cs rest : List Char} {token : NumberToken} :
    readNumber cs = some (token, rest) ↔
      token.negative = (cs.head? == some '-') ∧
        ¬(token.whole.head? = some '0' ∧ 1 < token.whole.length) ∧
        ∃ behindWhole behindFraction,
          readDigits (if token.negative then cs.tail else cs) = some (token.whole, behindWhole) ∧
          readFraction behindWhole = some (token.fraction, behindFraction) ∧
          readExponent behindFraction = some (token.exponent, rest) := by
  obtain ⟨negative, whole, fraction, exponent⟩ := token
  simp only [readNumber, Option.bind_eq_bind, Option.bind_eq_some_iff, Prod.exists]
  constructor
  · rintro ⟨whole', behindWhole, hdigits, h⟩
    split at h
    · exact nomatch h
    · next hleading =>
      simp only [Option.bind_eq_some_iff, Prod.exists] at h
      obtain ⟨fraction', behindFraction, hfraction, exponent', rest', hexponent, heq⟩ := h
      cases heq
      exact ⟨rfl, hleading, behindWhole, behindFraction, hdigits, hfraction, hexponent⟩
  · rintro ⟨rfl, hleading, behindWhole, behindFraction, hdigits, hfraction, hexponent⟩
    refine ⟨whole, behindWhole, hdigits, ?_⟩
    rw [if_neg hleading, hfraction, Option.bind_some, hexponent]
    rfl

theorem readNumber_append {token : NumberToken} {cs rest : List Char}
    (h : NumberWritten token cs) (hrest : Ends rest) :
    readNumber (cs ++ rest) = some (token, rest) := by
  obtain ⟨hwhole, hzero, hfraction, hexponent⟩ := h
  next negative whole fraction fractionText exponentText exponent =>
  obtain ⟨hdigit, hnodigit, hpoint⟩ := noDigit_of_written hfraction hexponent hrest
  obtain ⟨d, ds, rfl⟩ := List.exists_cons_of_ne_nil hwhole.1
  have hminus : d ≠ '-' := fun hd => absurd (hd ▸ hwhole.2 d List.mem_cons_self) (by decide)
  refine readNumber_eq_some_iff.mpr ⟨?_, ?_, fractionText ++ (exponentText ++ rest),
    exponentText ++ rest, ?_, readFraction_append hfraction hnodigit hpoint,
    readExponent_append hexponent hrest⟩
  · cases negative <;> simp [hminus]
  · exact fun ⟨hhead, hlong⟩ => absurd (hzero hhead) (Nat.ne_of_gt hlong)
  · have hread := readDigits_append hwhole hdigit
    cases negative <;> simpa using hread

theorem numberWritten_of_readNumber {cs rest : List Char} {token : NumberToken}
    (h : readNumber cs = some (token, rest)) :
    ∃ text, NumberWritten token text ∧ cs = text ++ rest := by
  obtain ⟨hnegative, hleading, behindWhole, behindFraction, hdigits, hfraction, hexponent⟩ :=
    readNumber_eq_some_iff.mp h
  obtain ⟨hwhole, hcs⟩ := digits_of_readDigits hdigits
  obtain ⟨fractionText, hfractionWritten, rfl⟩ := fractionWritten_of_readFraction hfraction
  obtain ⟨exponentText, hexponentWritten, rfl⟩ := exponentWritten_of_readExponent hexponent
  have hzero : token.whole.head? = some '0' → token.whole.length = 1 := fun hhead => by
    have hpos := List.length_pos_iff.mpr hwhole.1
    have hshort : ¬1 < token.whole.length := fun hlong => hleading ⟨hhead, hlong⟩
    omega
  refine ⟨_, .mk hwhole hzero hfractionWritten hexponentWritten, ?_⟩
  cases hn : token.negative with
  | false =>
    rw [hn] at hcs
    simpa using hcs
  | true =>
    rw [hn] at hcs hnegative
    cases cs with
    | nil => exact absurd hnegative (by decide)
    | cons c cs =>
      have hc : c = '-' := by simpa using hnegative
      subst hc
      simpa using hcs

/-! ### Strings -/

theorem readParts_part {part : StringPart} {cs : List Char} (h : PartWritten part cs)
    (passed : List StringPart) (rest : List Char) :
    readParts passed (cs ++ rest) = readParts (part :: passed) rest := by
  cases h with
  | @plain c hquote hslash hcontrol =>
    rw [List.singleton_append, readParts]
    · exact if_neg (Nat.not_lt.mpr hcontrol)
    · exact hquote
    · exact fun _ _ _ _ _ hbackslash _ => hslash hbackslash
    · exact fun _ _ hbackslash _ => hslash hbackslash
  | @escaped c e he =>
    have hu : c ≠ 'u' := by
      rintro rfl
      exact nomatch he
    simp only [List.cons_append, List.nil_append]
    rw [readParts, he]
    exact fun _ _ _ _ _ hunit _ => hu hunit
  | @unit a b c d n hn =>
    simp only [List.cons_append, List.nil_append]
    rw [readParts, hn]

theorem readParts_append {parts : List StringPart} {cs : List Char} (h : PartsWritten parts cs)
    (passed : List StringPart) (rest : List Char) :
    readParts passed (cs ++ '"' :: rest) = some (passed.reverse ++ parts, rest) := by
  induction h generalizing passed with
  | nil => rw [List.nil_append, readParts, List.append_nil]
  | cons hpart _ ih =>
    rw [List.append_assoc, readParts_part hpart, ih, List.reverse_cons, List.append_assoc]
    rfl

theorem partsWritten_of_readParts {passed parts : List StringPart} {cs rest : List Char}
    (h : readParts passed cs = some (parts, rest)) :
    ∃ more text, PartsWritten more text ∧ parts = passed.reverse ++ more ∧
      cs = text ++ '"' :: rest := by
  fun_induction readParts passed cs with
  | case1 => exact nomatch h
  | case2 passed rest' =>
    obtain ⟨rfl, rfl⟩ := Prod.mk.inj (Option.some.inj h)
    exact ⟨[], [], .nil, (List.append_nil _).symm, rfl⟩
  | case3 passed a b c d rest' n hn ih =>
    obtain ⟨more, text, hmore, rfl, rfl⟩ := ih h
    exact ⟨.unit n :: more, _, .cons (.unit hn) hmore, by simp, by simp⟩
  | case4 => exact nomatch h
  | case5 passed c rest' _ e he ih =>
    obtain ⟨more, text, hmore, rfl, rfl⟩ := ih h
    exact ⟨.char e :: more, _, .cons (.escaped he) hmore, by simp, by simp⟩
  | case6 => exact nomatch h
  | case7 => exact nomatch h
  | case8 passed c rest' hquote hunit hslash hcontrol ih =>
    -- A backslash at the very end of a text begins nothing and closes nothing.
    have hbackslash : c ≠ '\\' := by
      rintro rfl
      cases rest' with
      | nil => exact nomatch h
      | cons d rest' => exact hslash d rest' rfl rfl
    obtain ⟨more, text, hmore, rfl, rfl⟩ := ih h
    exact ⟨.char c :: more, _, .cons (.plain hquote hbackslash (Nat.not_lt.mp hcontrol)) hmore,
      by simp, by simp⟩

theorem readString_append {text : Option String} {cs : List Char} (h : StringWritten text cs) :
    ∃ inner, cs = '"' :: inner ∧ ∀ rest, readString (inner ++ rest) = some (text, rest) := by
  cases h with
  | mk h =>
    refine ⟨_, rfl, fun rest => ?_⟩
    rw [List.append_assoc, List.singleton_append, readString, readParts_append h]
    rfl

theorem stringWritten_of_readString {text : Option String} {cs rest : List Char}
    (h : readString cs = some (text, rest)) :
    ∃ written, StringWritten text written ∧ '"' :: cs = written ++ rest := by
  obtain ⟨⟨parts, after⟩, hparts, heq⟩ := Option.map_eq_some_iff.mp h
  obtain ⟨rfl, rfl⟩ := Prod.mk.inj heq
  obtain ⟨more, inner, hmore, rfl, rfl⟩ := partsWritten_of_readParts hparts
  exact ⟨_, .mk hmore, by simp⟩

end MarketDesk.Json

import MarketDesk.Currency
import MarketDesk.Proofs.Currency.Spelling

/-!
# The symbols of a pair

A currency symbol is a text that is not empty and has no blanks at its ends. Symbols stay symbols in
capital letters and in canonical form, so both currencies of a pair are symbols, in whichever of its
ways the pair was obtained, and the pair is made again from them. The canonical form is reached in
one step: it is its own canonical form, and capital letters are their own capitals. Its text is the
text of the pair in small letters, since the words on either side of a slash do not affect each
other.
-/

namespace MarketDesk

structure IsSymbol (s : String) : Prop where
  nonempty : s ≠ ""
  trimmed : Text.Trimmed s.toList

namespace IsSymbol

theorem ofList {cs : List Char} (hne : cs ≠ []) (h : Text.Trimmed cs) :
    IsSymbol (String.ofList cs) where
  nonempty hempty := hne (String.ofList_eq_empty_iff.mp hempty)
  trimmed := by rwa [String.toList_ofList]

theorem toList_ne_nil {s : String} (h : IsSymbol s) : s.toList ≠ [] :=
  fun hnil => h.nonempty (String.toList_eq_nil_iff.mp hnil)

theorem upperText {s : String} (h : IsSymbol s) : IsSymbol (upperText s) :=
  ofList (mt (Text.upper_eq_nil_iff _).mp h.toList_ne_nil) (Text.trimmed_upper h.trimmed)

theorem canonicalCurrency {s : String} (h : IsSymbol s) : IsSymbol (canonicalCurrency s) := by
  rw [MarketDesk.canonicalCurrency, Text.trim_eq_self h.trimmed]
  exact ofList (mt (Text.lower_eq_nil_iff _).mp h.toList_ne_nil) (Text.trimmed_lower h.trimmed)

theorem canonicalCurrency_eq {s : String} (h : IsSymbol s) :
    MarketDesk.canonicalCurrency s = lowerText s := by
  rw [MarketDesk.canonicalCurrency, lowerText, Text.trim_eq_self h.trimmed]

end IsSymbol

/-- A slash keeps the words on its two sides apart. -/
theorem isDivider_slash : Text.IsDivider '/' := ⟨by decide +kernel, by decide +kernel, by decide⟩

theorem lowerText_append_slash (s t : String) :
    lowerText (s ++ "/" ++ t) = lowerText s ++ "/" ++ lowerText t := by
  have hchars : (s ++ "/" ++ t).toList = s.toList ++ '/' :: t.toList := by
    rw [String.toList_append, String.toList_append, List.append_assoc]
    rfl
  have hslash : String.ofList ['/'] = "/" := rfl
  rw [lowerText, hchars, Text.lower_append_cons isDivider_slash, List.append_cons,
    String.ofList_append, String.ofList_append, hslash]
  rfl

theorem canonicalCurrency_canonicalCurrency (s : String) :
    canonicalCurrency (canonicalCurrency s) = canonicalCurrency s := by
  have htrimmed : Text.Trimmed (Text.lower (Text.trim s.toList)) :=
    Text.trimmed_lower (Text.trimmed_trim _)
  rw [canonicalCurrency, canonicalCurrency, String.toList_ofList, Text.trim_eq_self htrimmed,
    Text.lower_lower]

theorem upperText_append (s t : String) : upperText (s ++ t) = upperText s ++ upperText t := by
  rw [upperText, String.toList_append, Text.upper_append, String.ofList_append]
  rfl

theorem upperText_upperText (s : String) : upperText (upperText s) = upperText s := by
  rw [upperText, upperText, String.toList_ofList, Text.upper_upper]

namespace CurrencyPair

theorem canonical_canonical (p : CurrencyPair) : p.canonical.canonical = p.canonical :=
  CurrencyPair.ext (canonicalCurrency_canonicalCurrency p.base)
    (canonicalCurrency_canonicalCurrency p.quote)

/-- A pair that was made of two symbols, of a text or of JSON, or of a pair by a change of case. -/
inductive Obtained : CurrencyPair → Prop
  | symbols {base quote : String} {p : CurrencyPair} (h : ofSymbols base quote = .ok p) : Obtained p
  | text {s : String} {p : CurrencyPair} (h : parse s = .ok p) : Obtained p
  | json {json : Json} {p : CurrencyPair} (h : CurrencyPair.decode json = .ok p) : Obtained p
  | canonical {p : CurrencyPair} (h : Obtained p) : Obtained p.canonical
  | inCase {p : CurrencyPair} (uppercase : Bool) (h : Obtained p) : Obtained (p.inCase uppercase)

structure HasSymbols (p : CurrencyPair) : Prop where
  base : IsSymbol p.base
  quote : IsSymbol p.quote

theorem hasSymbols_of_ofChars {base quote : List Char} {p : CurrencyPair}
    (h : ofChars base quote = .ok p) : p.HasSymbols := by
  obtain ⟨hbase, hquote, rfl⟩ := ofChars_eq_ok_iff.mp h
  exact ⟨.ofList hbase (Text.trimmed_trim base), .ofList hquote (Text.trimmed_trim quote)⟩

theorem HasSymbols.ofSymbols_eq {p : CurrencyPair} (h : p.HasSymbols) :
    ofSymbols p.base p.quote = .ok p := by
  rw [ofSymbols, ofChars_eq_ok_iff, Text.trim_eq_self h.base.trimmed,
    Text.trim_eq_self h.quote.trimmed, String.ofList_toList, String.ofList_toList]
  exact ⟨h.base.toList_ne_nil, h.quote.toList_ne_nil, rfl⟩

theorem ofSymbols_of_decode {json : Json} {p : CurrencyPair}
    (h : CurrencyPair.decode json = .ok p) : ∃ base quote, ofSymbols base quote = .ok p := by
  unfold CurrencyPair.decode at h
  cases hfields : CurrencyPair.fields.decode json with
  | error e => rw [hfields] at h; exact nomatch h
  | ok row =>
    obtain ⟨base, quote, ⟨⟩⟩ := row
    rw [hfields] at h
    refine ⟨base, quote, ?_⟩
    cases hpair : ofSymbols base quote with
    | error e =>
      simp only [bind, Except.bind, hpair] at h
      exact nomatch h
    | ok q =>
      simp only [bind, Except.bind, hpair] at h
      exact congrArg Except.ok (Except.ok.inj h)

/-- Joined and then put in small letters, or the other way round. -/
theorem HasSymbols.format_canonical {p : CurrencyPair} (h : p.HasSymbols) :
    p.format .canonical = p.canonical.display := by
  have hformat : p.format .canonical = lowerText (p.base ++ "/" ++ p.quote) := rfl
  rw [hformat, lowerText_append_slash, ← h.base.canonicalCurrency_eq,
    ← h.quote.canonicalCurrency_eq]
  rfl

theorem HasSymbols.canonical {p : CurrencyPair} (h : p.HasSymbols) : p.canonical.HasSymbols :=
  ⟨h.base.canonicalCurrency, h.quote.canonicalCurrency⟩

theorem Obtained.hasSymbols {p : CurrencyPair} (h : p.Obtained) : p.HasSymbols := by
  induction h with
  | symbols h => exact hasSymbols_of_ofChars h
  | text h =>
    obtain ⟨base, quote, -, hchars⟩ := parse_eq_ok_iff.mp h
    exact hasSymbols_of_ofChars (ofChars_eq_ok_iff.mpr hchars)
  | json h =>
    obtain ⟨base, quote, hsymbols⟩ := ofSymbols_of_decode h
    exact hasSymbols_of_ofChars hsymbols
  | canonical _ ih => exact ih.canonical
  | inCase uppercase _ ih =>
    cases uppercase with
    | true => exact ⟨ih.base.upperText, ih.quote.upperText⟩
    | false => exact ih.canonical

end CurrencyPair

end MarketDesk

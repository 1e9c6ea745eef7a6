import MarketDesk.Currency
import MarketDesk.Proofs.Book.Json
import MarketDesk.Proofs.Book.Keys
import MarketDesk.Proofs.Currency.Grammar
import MarketDesk.Venue.Instruments

/-!
# Where pairs come from

Pairs are made of symbols, texts and JSON, and are changed in case. They also come from a map of
venue symbols, from a venue's list of markets and from the keys of a store. What such a place gives
is a pair that went into it, up to a change of case, so it is no other pair than those that were
made, and it can be made again. Read from its own text it is the same pair, unless one of its
symbols has a delimiter in it. Its canonical text does not depend on whether the symbols are joined
before they are put in small letters.
-/

namespace MarketDesk.CurrencyPair

/-- A pair that was obtained in any way, by any number of steps. -/
inductive Arises : CurrencyPair → Prop
  | obtained {p : CurrencyPair} (h : p.Obtained) : Arises p
  | canonical {p : CurrencyPair} (h : Arises p) : Arises p.canonical
  | resolved {m : SymbolMap} (hm : ∀ e ∈ m.pairs.entries, Arises e.2) {symbol : String}
      {format : PairFormat} {p : CurrencyPair} (h : m.resolve? symbol format = some p) : Arises p
  | published {i : Instruments} {e : String × CurrencyPair} (h : e ∈ i.entries) : Arises e.2
  | stored {us : List Upsert} (hus : ∀ u ∈ us, Arises u.pair) {key : CurrencyPair}
      {bookType : String} (h : (key, bookType) ∈ (BookStore.ofUpserts us).keys) : Arises key

theorem obtained_of_mem_entries {i : Instruments} {e : String × CurrencyPair}
    (h : e ∈ i.entries) : e.2.Obtained := by
  obtain ⟨market, -, hentry⟩ := List.mem_filterMap.mp h
  unfold Market.entry? at hentry
  split at hentry
  · next pair hpair =>
    obtain rfl := Option.some.inj hentry
    exact .symbols hpair
  · exact nomatch hentry

theorem Arises.to_obtained {p : CurrencyPair} (h : p.Arises) : p.Obtained := by
  induction h with
  | obtained h => exact h
  | canonical _ ih => exact .canonical ih
  | @resolved m _ symbol format p h ih =>
    obtain ⟨q, hq, rfl⟩ := Option.map_eq_some_iff.mp h
    exact .inCase format.uppercase (ih _ (Dictionary.mem_entries_of_get? hq))
  | published h => exact obtained_of_mem_entries h
  | stored _ h ih =>
    obtain ⟨u, hu, rfl, -⟩ := (BookStore.mem_keys_ofUpserts _ _ _).mp h
    exact .canonical (ih u hu)

theorem arises_iff_hasSymbols {p : CurrencyPair} : p.Arises ↔ p.HasSymbols :=
  ⟨fun h => h.to_obtained.hasSymbols, fun h => .obtained (.symbols h.ofSymbols_eq)⟩

/-- The pairs that can be obtained, in whichever way and by however many steps, are those of two
symbols that are not empty and have no blanks at their ends. They are also the pairs that are made
again from their own symbols, and those that are read back from the JSON written for them. -/
theorem arises_iff_remade (p : CurrencyPair) :
    (p.Arises ↔ IsSymbol p.base ∧ IsSymbol p.quote) ∧
      (p.Arises ↔ ofSymbols p.base p.quote = .ok p) ∧
      (p.Arises ↔ decode.run p.toJson.text = .ok p) := by
  rw [arises_iff_hasSymbols]
  refine ⟨⟨fun h => ⟨h.base, h.quote⟩, fun h => ⟨h.1, h.2⟩⟩, ?_, ?_⟩
  · exact ⟨HasSymbols.ofSymbols_eq, hasSymbols_of_ofChars⟩
  · refine ⟨fun h => decode.run_text p.toJson (decode_toJson h), fun h => ?_⟩
    have hread := (Decoder.run_eq_ok_iff.mp h).1
    exact (Obtained.json hread).hasSymbols

/-- A text is read as a pair just if it has one delimiter, with something other than blanks on
either side, and the symbols are what stands there without the blanks at its ends. Any pair is read
from its own text if its symbols have no delimiter, as those of a pair that was read have none, and
is refused otherwise for the delimiters in it. -/
theorem parse_inverts_display (s : String) (p : CurrencyPair) :
    ((∃ q, parse s = .ok q) ↔ ∃ before after, Divided s.toList before after ∧
        (∃ c ∈ before, Text.isBlank c = false) ∧ ∃ c ∈ after, Text.isBlank c = false) ∧
      (∀ before after, parse s = .ok p → Divided s.toList before after →
        Text.TrimsTo before p.base.toList ∧ Text.TrimsTo after p.quote.toList) ∧
      (p.Arises → (parse p.display = .ok p ↔ p.Undelimited) ∧
        (¬p.Undelimited → parse p.display = .error (.delimiterCount p.display))) ∧
      (parse s = .ok p → parse p.display = .ok p) := by
  refine ⟨exists_parse_iff, fun _ _ hp hdivided => trims_of_parse hp hdivided, fun hp => ?_,
    fun hp => ?_⟩
  · have hsymbols := hp.to_obtained.hasSymbols
    exact ⟨⟨undelimited_of_parse, parse_display hsymbols⟩, parse_display_of_not_undelimited⟩
  · have hsymbols := (Obtained.text hp).hasSymbols
    exact parse_display hsymbols (undelimited_of_parse hp)

theorem iterate_canonical (p : CurrencyPair) (n : Nat) :
    canonical^[n + 1] p = p.canonical := by
  rw [Function.iterate_succ_apply]
  exact Function.iterate_fixed p.canonical_canonical n

/-- The canonical text of a pair is the same whether its symbols are first joined or first put in
canonical form, and it is the text of the canonical form too, however often that is taken. -/
theorem canonical_text_agrees (p : CurrencyPair) (h : p.Arises) (n : Nat) :
    p.format .canonical = p.canonical.display ∧
      (canonical^[n] p).format .canonical = p.format .canonical ∧
      (canonical^[n] p).canonical.display = p.canonical.display := by
  have hsymbols := arises_iff_hasSymbols.mp h
  refine ⟨hsymbols.format_canonical, ?_⟩
  cases n with
  | zero => exact ⟨rfl, rfl⟩
  | succ n =>
    rw [iterate_canonical, hsymbols.canonical.format_canonical, hsymbols.format_canonical,
      p.canonical_canonical]
    exact ⟨rfl, rfl⟩

/-- A capital sigma that ends a word in front of the slash, behind a mark that does not count, and
one behind it that starts a word. -/
theorem canonical_text_agrees_sigma :
    let p : CurrencyPair := ⟨"AΣ\u0301", "ΣΣ"⟩
    p.Arises ∧ p.format .canonical = "aς\u0301/σς" ∧ p.canonical.display = "aς\u0301/σς" ∧
      (canonical^[2] p).format .canonical = "aς\u0301/σς" := by
  intro p
  have hmade : ofSymbols p.base p.quote = .ok p := by decide
  have harises : p.Arises := .obtained (.symbols hmade)
  obtain ⟨heq, htwice, -⟩ := canonical_text_agrees p harises 2
  have hdisplay : p.canonical.display = "aς\u0301/σς" := by decide +kernel
  exact ⟨harises, heq.trans hdisplay, hdisplay, htwice.trans (heq.trans hdisplay)⟩

end MarketDesk.CurrencyPair

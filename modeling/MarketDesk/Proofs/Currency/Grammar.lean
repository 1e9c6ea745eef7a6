import MarketDesk.Proofs.Currency.Symbols

/-!
# The texts that are pairs

A text is a pair if it has one delimiter, with something other than blanks before it and after it.
The symbols are what stands there, without the blanks at its ends. So a pair is read from its own
text just if neither of its symbols has a delimiter in it, and the symbols that are read from a text
have none.
-/

namespace MarketDesk.CurrencyPair

def delimiters : List Char := ['/', '-', '_', ':']

/-- A text with one delimiter in it, and what stands before it and after it. -/
structure Divided (text before after : List Char) : Prop where
  once : (text.countP fun c => c ∈ delimiters) = 1
  around : ∃ d ∈ delimiters, text = before ++ d :: after

/-- Neither symbol has a delimiter in it. -/
structure Undelimited (p : CurrencyPair) : Prop where
  base : ∀ c ∈ p.base.toList, c ∉ delimiters
  quote : ∀ c ∈ p.quote.toList, c ∉ delimiters

theorem isDelimiter_iff {c : Char} : isDelimiter c = true ↔ c ∈ delimiters := by
  simp only [isDelimiter, delimiters, Bool.or_eq_true, beq_iff_eq, List.mem_cons, List.not_mem_nil,
    or_false, or_assoc]

theorem isDelimiter_eq_false_iff {c : Char} : isDelimiter c = false ↔ c ∉ delimiters := by
  rw [← isDelimiter_iff, Bool.not_eq_true]

theorem countP_delimiters_eq_zero_iff {cs : List Char} :
    (cs.countP fun c => c ∈ delimiters) = 0 ↔ ∀ c ∈ cs, c ∉ delimiters := by
  simp [List.countP_eq_zero]

theorem countP_delimiters_append_cons {d : Char} (hd : d ∈ delimiters) (before after : List Char) :
    ((before ++ d :: after).countP fun c => c ∈ delimiters) =
      (before.countP fun c => c ∈ delimiters) + ((after.countP fun c => c ∈ delimiters) + 1) := by
  rw [List.countP_append, List.countP_cons, if_pos (decide_eq_true hd)]

/-- A delimiter is the only one if there is none before it and none after it. -/
theorem divided_append_iff {d : Char} (hd : d ∈ delimiters) {before after : List Char} :
    Divided (before ++ d :: after) before after ↔
      (∀ c ∈ before, c ∉ delimiters) ∧ ∀ c ∈ after, c ∉ delimiters := by
  rw [← countP_delimiters_eq_zero_iff, ← countP_delimiters_eq_zero_iff]
  constructor
  · rintro ⟨honce, -⟩
    rw [countP_delimiters_append_cons hd] at honce
    omega
  · rintro ⟨hbefore, hafter⟩
    refine ⟨?_, d, hd, rfl⟩
    rw [countP_delimiters_append_cons hd, hbefore, hafter]

theorem Divided.notMem {text before after : List Char} (h : Divided text before after) :
    (∀ c ∈ before, c ∉ delimiters) ∧ ∀ c ∈ after, c ∉ delimiters := by
  obtain ⟨d, hd, rfl⟩ := h.around
  exact (divided_append_iff hd).mp h

theorem forall_not_of_splitOnP_eq_singleton {cs part : List Char}
    (h : cs.splitOnP isDelimiter = [part]) : cs = part ∧ ∀ c ∈ cs, isDelimiter c = false := by
  cases hrest : cs.dropWhile fun c => !isDelimiter c with
  | nil =>
    have hnone := dropWhile_eq_nil_iff.mp hrest
    rw [List.splitOnP_eq_singleton hnone] at h
    exact ⟨(List.cons.inj h).1, hnone⟩
  | cons d rest =>
    rw [splitOnP_of_dropWhile hrest] at h
    exact absurd (List.cons.inj h).2 (List.splitOnP_ne_nil isDelimiter rest)

/-- A text with one delimiter is one that is cut into two parts at its delimiters. -/
theorem divided_iff {text before after : List Char} :
    Divided text before after ↔ text.splitOnP isDelimiter = [before, after] := by
  constructor
  · intro h
    obtain ⟨hbefore, hafter⟩ := h.notMem
    obtain ⟨d, hd, rfl⟩ := h.around
    rw [List.splitOnP_append_cons_of_forall_mem
        (fun c hc => isDelimiter_eq_false_iff.mpr (hbefore c hc)) d (isDelimiter_iff.mpr hd),
      List.splitOnP_eq_singleton fun c hc => isDelimiter_eq_false_iff.mpr (hafter c hc)]
  · intro h
    cases hrest : text.dropWhile fun c => !isDelimiter c with
    | nil =>
      rw [List.splitOnP_eq_singleton (dropWhile_eq_nil_iff.mp hrest)] at h
      simp at h
    | cons d rest =>
      -- the text is cut at its first delimiter, and what follows is one part, so it has no other
      obtain ⟨hd, hfront, htext⟩ := cut_of_dropWhile hrest
      rw [splitOnP_of_dropWhile hrest, List.cons.injEq] at h
      obtain ⟨hbefore, hafter⟩ := h
      obtain ⟨rfl, hnone⟩ := forall_not_of_splitOnP_eq_singleton hafter
      rw [hbefore] at hfront htext
      rw [htext, divided_append_iff (isDelimiter_iff.mp hd)]
      exact ⟨fun c hc => isDelimiter_eq_false_iff.mp (hfront c hc),
        fun c hc => isDelimiter_eq_false_iff.mp (hnone c hc)⟩

/-- What is read from a text with one delimiter. -/
theorem parse_of_divided {s : String} {before after : List Char}
    (h : Divided s.toList before after) : parse s = ofChars before after := by
  rw [parse_eq, divided_iff.mp h]

theorem parse_of_not_divided {s : String}
    (h : ∀ before after, ¬Divided s.toList before after) :
    parse s = .error (.delimiterCount s) := by
  rw [parse_eq]
  split
  · next before after hparts => exact absurd (divided_iff.mpr hparts) (h before after)
  · rfl

theorem exists_parse_iff {s : String} :
    (∃ p, parse s = .ok p) ↔ ∃ before after, Divided s.toList before after ∧
      (∃ c ∈ before, Text.isBlank c = false) ∧ ∃ c ∈ after, Text.isBlank c = false := by
  constructor
  · rintro ⟨p, hp⟩
    obtain ⟨before, after, hparts, hbefore, hafter, -⟩ := parse_eq_ok_iff.mp hp
    exact ⟨before, after, divided_iff.mpr hparts, Text.trim_ne_nil_iff.mp hbefore,
      Text.trim_ne_nil_iff.mp hafter⟩
  · rintro ⟨before, after, hdivided, hbefore, hafter⟩
    rw [parse_of_divided hdivided]
    exact ⟨_, ofChars_eq_ok_iff.mpr
      ⟨Text.trim_ne_nil_iff.mpr hbefore, Text.trim_ne_nil_iff.mpr hafter, rfl⟩⟩

theorem trims_of_parse {s : String} {p : CurrencyPair} (h : parse s = .ok p)
    {before after : List Char} (hdivided : Divided s.toList before after) :
    Text.TrimsTo before p.base.toList ∧ Text.TrimsTo after p.quote.toList := by
  rw [parse_of_divided hdivided, ofChars_eq_ok_iff] at h
  obtain ⟨-, -, rfl⟩ := h
  rw [String.toList_ofList, String.toList_ofList]
  exact ⟨Text.trimsTo_trim before, Text.trimsTo_trim after⟩

theorem undelimited_of_parse {s : String} {p : CurrencyPair} (h : parse s = .ok p) :
    p.Undelimited := by
  obtain ⟨before, after, hdivided, -⟩ := exists_parse_iff.mp ⟨p, h⟩
  obtain ⟨hbase, hquote⟩ := trims_of_parse h hdivided
  obtain ⟨hbefore, hafter⟩ := hdivided.notMem
  exact ⟨fun c hc => hbefore c (hbase.mem hc), fun c hc => hafter c (hquote.mem hc)⟩

theorem toList_display (p : CurrencyPair) :
    p.display.toList = p.base.toList ++ '/' :: p.quote.toList := by
  rw [display, String.toList_append, String.toList_append, List.append_assoc]
  rfl

theorem parse_display {p : CurrencyPair} (h : p.HasSymbols) (hp : p.Undelimited) :
    parse p.display = .ok p := by
  have hdivided : Divided p.display.toList p.base.toList p.quote.toList := by
    rw [toList_display]
    exact (divided_append_iff (by decide)).mpr ⟨hp.base, hp.quote⟩
  rw [parse_of_divided hdivided]
  exact h.ofSymbols_eq

/-- The text of a pair has a delimiter between its symbols, so another one is one too many. -/
theorem parse_display_of_not_undelimited {p : CurrencyPair} (h : ¬p.Undelimited) :
    parse p.display = .error (.delimiterCount p.display) := by
  apply parse_of_not_divided
  intro before after hdivided
  apply h
  have honce := hdivided.once
  rw [toList_display, countP_delimiters_append_cons (by decide)] at honce
  constructor
  · exact countP_delimiters_eq_zero_iff.mp (by omega)
  · exact countP_delimiters_eq_zero_iff.mp (by omega)

end MarketDesk.CurrencyPair

import MarketDesk.Currency
import MarketDesk.Proofs.Text.Case
import Mathlib.Logic.Relation

/-!
# Spellings of a pair

A text is spelled in another way by edits that change its delimiter, the case of an ASCII letter or
the blanks around a symbol. Cutting a text at its delimiters, trimming the parts and taking them in
small ASCII letters gives the same for every spelling, and whether a text is a pair, and of which
currencies, depends on that alone.
-/

namespace MarketDesk

namespace CurrencyPair

/-- One change to the spelling of a text: the case of a letter, a delimiter, or one more blank next
to a delimiter or at an end. -/
inductive Edit : List Char → List Char → Prop
  | letter (before after : List Char) {c d : Char} (h : c.toLower = d.toLower) :
      Edit (before ++ c :: after) (before ++ d :: after)
  | delimiter (before after : List Char) {c d : Char} (hc : isDelimiter c = true)
      (hd : isDelimiter d = true) : Edit (before ++ c :: after) (before ++ d :: after)
  | blankFirst (text : List Char) {b : Char} (hb : Text.isBlank b = true) : Edit text (b :: text)
  | blankLast (text : List Char) {b : Char} (hb : Text.isBlank b = true) : Edit text (text ++ [b])
  | blankBefore (before after : List Char) {b d : Char} (hb : Text.isBlank b = true)
      (hd : isDelimiter d = true) : Edit (before ++ d :: after) (before ++ b :: d :: after)
  | blankAfter (before after : List Char) {b d : Char} (hb : Text.isBlank b = true)
      (hd : isDelimiter d = true) : Edit (before ++ d :: after) (before ++ d :: b :: after)

/-- Texts that edits lead to from one another, forwards and backwards. -/
def Respelled (s t : String) : Prop := Relation.EqvGen Edit s.toList t.toList

/-- The parts of a text between its delimiters, without regard to blanks at their ends and to the
case of ASCII letters. -/
def spelling (cs : List Char) : List (List Char) :=
  (cs.splitOnP isDelimiter).map fun part => (Text.trim part).map Char.toLower

section Parts

theorem isDelimiter_toLower (c : Char) : isDelimiter c.toLower = isDelimiter c :=
  Text.comp_toLower (by decide) c

theorem not_isDelimiter_of_isBlank {b : Char} (hb : Text.isBlank b = true) :
    isDelimiter b = false := by
  rw [← Bool.not_eq_true]
  intro hd
  simp only [isDelimiter, Bool.or_eq_true, beq_iff_eq] at hd
  rcases hd with ((rfl | rfl) | rfl) | rfl <;> exact absurd hb (by decide)

theorem splitOnP_map_toLower (cs : List Char) :
    (cs.map Char.toLower).splitOnP isDelimiter =
      (cs.splitOnP isDelimiter).map (List.map Char.toLower) := by
  induction cs with
  | nil => rfl
  | cons c rest ih =>
    rw [List.map_cons, List.splitOnP_cons_eq_if_modifyHead, List.splitOnP_cons_eq_if_modifyHead, ih,
      isDelimiter_toLower]
    split
    · rfl
    · cases rest.splitOnP isDelimiter <;> rfl

theorem spelling_map_toLower (cs : List Char) : spelling (cs.map Char.toLower) = spelling cs := by
  have hlower : Char.toLower ∘ Char.toLower = Char.toLower :=
    funext (Text.comp_toLower (f := Char.toLower) (by decide))
  unfold spelling
  rw [splitOnP_map_toLower, List.map_map]
  refine List.map_congr_left fun part _ => ?_
  rw [Function.comp_apply, Text.trim_map Text.isBlank_toLower, List.map_map, hlower]

theorem spelling_append_cons {d : Char} (hd : isDelimiter d = true) (before after : List Char) :
    spelling (before ++ d :: after) = spelling before ++ spelling after := by
  rw [spelling, List.splitOnP_append_cons _ _ hd, List.map_append]
  rfl

theorem spelling_of_forall_not {cs : List Char} (h : ∀ c ∈ cs, isDelimiter c = false) :
    spelling cs = [(Text.trim cs).map Char.toLower] := by
  rw [spelling, List.splitOnP_eq_singleton h]
  rfl

theorem spelling_cons_blank {b : Char} (hb : Text.isBlank b = true) (cs : List Char) :
    spelling (b :: cs) = spelling cs := by
  unfold spelling
  rw [List.splitOnP_cons_eq_if_modifyHead, not_isDelimiter_of_isBlank hb, if_neg Bool.false_ne_true]
  cases cs.splitOnP isDelimiter with
  | nil => rfl
  | cons part parts => rw [List.modifyHead_cons, List.map_cons, List.map_cons, Text.trim_cons hb]

/-- The part that a text ends with is found by going through the text, with the start of the part in
hand. -/
theorem spelling_append_concat_blank {b : Char} (hb : Text.isBlank b = true) (cs part : List Char)
    (hpart : ∀ c ∈ part, isDelimiter c = false) :
    spelling (part ++ cs ++ [b]) = spelling (part ++ cs) := by
  induction cs generalizing part with
  | nil =>
    have hlast : ∀ c ∈ part ++ [b], isDelimiter c = false := fun c hc =>
      (List.mem_append.mp hc).elim (hpart c) fun hc =>
        List.mem_singleton.mp hc ▸ not_isDelimiter_of_isBlank hb
    rw [List.append_nil, spelling_of_forall_not hlast, spelling_of_forall_not hpart,
      Text.trim_concat hb]
  | cons c rest ih =>
    cases hc : isDelimiter c with
    | true =>
      have hrest : spelling (rest ++ [b]) = spelling rest := ih [] (by simp)
      rw [List.append_assoc, List.cons_append, spelling_append_cons hc, hrest,
        spelling_append_cons hc]
    | false =>
      have hnext : ∀ e ∈ part ++ [c], isDelimiter e = false := fun e he =>
        (List.mem_append.mp he).elim (hpart e) fun he => List.mem_singleton.mp he ▸ hc
      have hrest := ih (part ++ [c]) hnext
      rwa [List.append_assoc part [c] rest, List.singleton_append] at hrest

theorem spelling_concat_blank {b : Char} (hb : Text.isBlank b = true) (cs : List Char) :
    spelling (cs ++ [b]) = spelling cs :=
  spelling_append_concat_blank hb cs [] (by simp)

end Parts

theorem Edit.spelling_eq {cs ds : List Char} (h : Edit cs ds) : spelling cs = spelling ds := by
  cases h with
  | letter before after h =>
    rw [← spelling_map_toLower, ← spelling_map_toLower (before ++ _ :: after), List.map_append,
      List.map_append, List.map_cons, List.map_cons, h]
  | delimiter before after hc hd => rw [spelling_append_cons hc, spelling_append_cons hd]
  | blankFirst _ hb => rw [spelling_cons_blank hb]
  | blankLast _ hb => rw [spelling_concat_blank hb]
  | @blankBefore before after b d hb hd =>
    rw [List.append_cons before b, spelling_append_cons hd, spelling_append_cons hd,
      spelling_concat_blank hb]
  | blankAfter before after hb hd =>
    rw [spelling_append_cons hd, spelling_append_cons hd, spelling_cons_blank hb]

theorem Respelled.spelling_eq {s t : String} (h : Respelled s t) :
    spelling s.toList = spelling t.toList := by
  unfold Respelled at h
  generalize s.toList = cs, t.toList = ds at h
  induction h with
  | rel _ _ h => exact h.spelling_eq
  | refl _ => rfl
  | symm _ _ _ ih => exact ih.symm
  | trans _ _ _ _ _ ih₁ ih₂ => exact ih₁.trans ih₂

section Parse

theorem dropWhile_eq_nil_iff {cs : List Char} :
    (cs.dropWhile fun c => !isDelimiter c) = [] ↔ ∀ c ∈ cs, isDelimiter c = false := by
  simp only [List.dropWhile_eq_nil_iff, Bool.not_eq_true']

/-- A text is cut at its first delimiter. -/
theorem cut_of_dropWhile {cs rest : List Char} {d : Char}
    (h : (cs.dropWhile fun c => !isDelimiter c) = d :: rest) :
    isDelimiter d = true ∧ (∀ c ∈ cs.takeWhile fun c => !isDelimiter c, isDelimiter c = false) ∧
      cs = (cs.takeWhile fun c => !isDelimiter c) ++ d :: rest := by
  refine ⟨?_, fun c hc => ?_, ?_⟩
  · have hnot := List.head?_dropWhile_not (fun c => !isDelimiter c) cs
    rw [h] at hnot
    simpa only [List.head?_cons, Bool.not_eq_false'] using hnot
  · simpa only [Bool.not_eq_true'] using List.mem_takeWhile_imp hc
  · rw [← h, List.takeWhile_append_dropWhile]

theorem splitOnP_of_dropWhile {cs rest : List Char} {d : Char}
    (h : (cs.dropWhile fun c => !isDelimiter c) = d :: rest) :
    cs.splitOnP isDelimiter =
      (cs.takeWhile fun c => !isDelimiter c) :: rest.splitOnP isDelimiter := by
  obtain ⟨hd, hfront, hcs⟩ := cut_of_dropWhile h
  conv_lhs => rw [hcs]
  exact List.splitOnP_append_cons_of_forall_mem hfront d hd rest

/-- A text is a pair of the two parts around its delimiter, if it has just one. -/
theorem parse_eq (s : String) :
    parse s = match s.toList.splitOnP isDelimiter with
      | [base, quote] => ofChars base quote
      | _ => .error (.delimiterCount s) := by
  unfold parse
  cases hrest : s.toList.dropWhile fun c => !isDelimiter c with
  | nil =>
    rw [List.splitOnP_eq_singleton (dropWhile_eq_nil_iff.mp hrest)]
  | cons d quote =>
    rw [splitOnP_of_dropWhile hrest]
    cases hquote : quote.dropWhile fun c => !isDelimiter c with
    | nil =>
      have hnone := dropWhile_eq_nil_iff.mp hquote
      have hany : quote.any isDelimiter = false := List.any_eq_false.mpr fun c hc =>
        Bool.eq_false_iff.mp (hnone c hc)
      simp only [hany, Bool.false_eq_true, if_false, List.splitOnP_eq_singleton hnone]
    | cons e rest =>
      have hany : quote.any isDelimiter = true := by
        rw [← Bool.not_eq_false, List.any_eq_false]
        intro hnone
        have hnil := dropWhile_eq_nil_iff.mpr fun c hc => Bool.eq_false_iff.mpr (hnone c hc)
        exact absurd (hquote.symm.trans hnil) (List.cons_ne_nil _ _)
      obtain ⟨part, parts, hparts⟩ :=
        List.exists_cons_of_ne_nil (List.splitOnP_ne_nil isDelimiter rest)
      simp only [hany, if_true, splitOnP_of_dropWhile hquote, hparts]

theorem ofChars_eq_ok_iff {base quote : List Char} {p : CurrencyPair} :
    ofChars base quote = .ok p ↔ Text.trim base ≠ [] ∧ Text.trim quote ≠ [] ∧
      p = ⟨String.ofList (Text.trim base), String.ofList (Text.trim quote)⟩ := by
  unfold ofChars
  cases Text.trim base with
  | nil => simp
  | cons b base =>
    cases Text.trim quote with
    | nil => simp
    | cons q quote => simp [eq_comm]

/-- What a text that is a pair has around its delimiter. -/
theorem parse_eq_ok_iff {s : String} {p : CurrencyPair} :
    parse s = .ok p ↔ ∃ base quote, s.toList.splitOnP isDelimiter = [base, quote] ∧
      Text.trim base ≠ [] ∧ Text.trim quote ≠ [] ∧
      p = ⟨String.ofList (Text.trim base), String.ofList (Text.trim quote)⟩ := by
  rw [parse_eq]
  split
  · next base quote hparts =>
    rw [ofChars_eq_ok_iff]
    constructor
    · exact fun h => ⟨base, quote, hparts, h⟩
    · rintro ⟨base', quote', hparts', h⟩
      obtain ⟨rfl, rfl⟩ : base = base' ∧ quote = quote' := by simpa [hparts] using hparts'
      exact h
  · next hparts =>
    refine iff_of_false (fun h => nomatch h) ?_
    rintro ⟨base, quote, hparts', -⟩
    exact hparts base quote hparts'

end Parse

/-- Pairs whose symbols differ at most in the case of ASCII letters. -/
structure SameLetters (p q : CurrencyPair) : Prop where
  base : p.base.toList.map Char.toLower = q.base.toList.map Char.toLower
  quote : p.quote.toList.map Char.toLower = q.quote.toList.map Char.toLower

theorem parse_of_spelling_eq {s t : String} {p : CurrencyPair}
    (h : spelling s.toList = spelling t.toList) (hs : parse s = .ok p) :
    ∃ q, parse t = .ok q ∧ p.SameLetters q := by
  obtain ⟨base, quote, hparts, hbase, hquote, rfl⟩ := parse_eq_ok_iff.mp hs
  have htwo : spelling t.toList =
      [(Text.trim base).map Char.toLower, (Text.trim quote).map Char.toLower] := by
    rw [← h, spelling, hparts]
    rfl
  unfold spelling at htwo
  match hparts' : t.toList.splitOnP isDelimiter with
  | [] => exact absurd hparts' (List.splitOnP_ne_nil _ _)
  | [_] => rw [hparts'] at htwo; simp at htwo
  | _ :: _ :: _ :: _ => rw [hparts'] at htwo; simp at htwo
  | [base', quote'] =>
    rw [hparts', List.map_cons, List.map_cons, List.map_nil, List.cons.injEq,
      List.cons.injEq] at htwo
    obtain ⟨hb, hq, -⟩ := htwo
    have hne {x y : List Char} (hx : x ≠ []) (hxy : y.map Char.toLower = x.map Char.toLower) :
        y ≠ [] := by
      rintro rfl
      exact hx (List.map_eq_nil_iff.mp hxy.symm)
    refine ⟨_, parse_eq_ok_iff.mpr ⟨base', quote', hparts', hne hbase hb, hne hquote hq, rfl⟩, ?_⟩
    constructor
    · simpa only [String.toList_ofList] using hb.symm
    · simpa only [String.toList_ofList] using hq.symm

theorem canonicalCurrency_of_map_toLower_eq {a b : String}
    (h : a.toList.map Char.toLower = b.toList.map Char.toLower) :
    canonicalCurrency a = canonicalCurrency b := by
  have hlower (s : String) :
      canonicalCurrency s = String.ofList (Text.lower (Text.trim (s.toList.map Char.toLower))) := by
    rw [Text.trim_map Text.isBlank_toLower, Text.lower_map_toLower]
    rfl
  rw [hlower, hlower, h]

theorem SameLetters.canonical_eq {p q : CurrencyPair} (h : p.SameLetters q) :
    p.canonical = q.canonical :=
  CurrencyPair.ext (canonicalCurrency_of_map_toLower_eq h.base)
    (canonicalCurrency_of_map_toLower_eq h.quote)

/-- In capital letters, pairs of the same letters are the same text around any delimiter. -/
theorem SameLetters.format_eq {p q : CurrencyPair} (h : p.SameLetters q) (delimiter : String) :
    p.format ⟨delimiter, true⟩ = q.format ⟨delimiter, true⟩ := by
  have hupper (r : CurrencyPair) : r.format ⟨delimiter, true⟩ =
      String.ofList (Text.upper ((r.base.toList ++ delimiter.toList ++ r.quote.toList).map
        Char.toLower)) := by
    rw [Text.upper_map_toLower, ← String.toList_append, ← String.toList_append]
    rfl
  rw [hupper, hupper, List.map_append, List.map_append, List.map_append, List.map_append, h.base,
    h.quote]

/-- The base currency as it stands in a text, in front of the first delimiter. -/
def baseText (s : String) : String := String.ofList (s.toList.takeWhile fun c => !isDelimiter c)

theorem canonicalCurrency_baseText {s : String} {p : CurrencyPair} (h : parse s = .ok p) :
    canonicalCurrency (baseText s) = canonicalCurrency p.base := by
  obtain ⟨base, quote, hparts, -, -, rfl⟩ := parse_eq_ok_iff.mp h
  have hbase : (s.toList.takeWhile fun c => !isDelimiter c) = base := by
    cases hrest : s.toList.dropWhile fun c => !isDelimiter c with
    | nil =>
      rw [List.splitOnP_eq_singleton (dropWhile_eq_nil_iff.mp hrest)] at hparts
      simp at hparts
    | cons d rest =>
      rw [splitOnP_of_dropWhile hrest] at hparts
      exact (List.cons.inj hparts).1
  rw [canonicalCurrency, canonicalCurrency, baseText, hbase, String.toList_ofList,
    String.toList_ofList, Text.trim_trim]

end CurrencyPair

end MarketDesk

import MarketDesk.Proofs.Text.CaseTable

/-!
# Letter case of whole texts

A text in lower case stays as it is in lower case, although the form of a sigma depends on the
letters around it: no capital sigma is left to be given a form. The form does not depend on what
stands behind a divider, such as a slash. Upper case goes character by character, so it may be taken
of the parts of a text, and taking it again changes nothing. Either case of a trimmed text is
trimmed, and it is empty only if the text is. The case of ASCII letters shows in neither.
-/

namespace MarketDesk.Text

section Lower

/-- What a character becomes in lower case, whatever stands around it. -/
def LowerOf (c : Char) (piece : List Char) : Prop :=
  piece = lowerChar c ∨ c = '\u03A3' ∧ piece = ['\u03C2']

theorem lowerOf_ite (c : Char) (final : Bool) :
    LowerOf c (if c = '\u03A3' then [if final then '\u03C2' else '\u03C3'] else lowerChar c) := by
  by_cases hc : c = '\u03A3'
  · subst hc
    rw [if_pos rfl]
    cases final with
    | true => exact Or.inr ⟨rfl, rfl⟩
    | false => exact Or.inl lowerChar_sigma.symm
  · rw [if_neg hc]
    exact Or.inl rfl

theorem stands_lowerOf {c : Char} {piece : List Char} (h : LowerOf c piece) : Stands c piece := by
  rcases h with rfl | ⟨rfl, rfl⟩
  · exact stands_lowerChar c
  · have hblank : isBlank '\u03C2' = isBlank '\u03A3' := by decide
    exact ⟨List.cons_ne_nil _ _, fun d hd => List.mem_singleton.mp hd ▸ hblank⟩

theorem lowerChar_of_lowerOf {c d : Char} {piece : List Char} (h : LowerOf c piece)
    (hd : d ∈ piece) : lowerChar d = [d] := by
  rcases h with rfl | ⟨rfl, rfl⟩
  · exact lowerChar_of_mem_lowerChar hd
  · exact List.mem_singleton.mp hd ▸ lowerChar_finalSigma

theorem lowerAfter_eq_flatten (before cs : List Char) :
    ∃ pieces, lowerAfter before cs = pieces.flatten ∧ List.Forall₂ LowerOf cs pieces := by
  induction cs generalizing before with
  | nil => exact ⟨[], rfl, .nil⟩
  | cons c rest ih =>
    obtain ⟨pieces, hpieces, hrest⟩ := ih (c :: before)
    have hpiece := lowerOf_ite c (meetsCased before && !meetsCased rest)
    refine ⟨_ :: pieces, ?_, .cons hpiece hrest⟩
    rw [lowerAfter, hpieces, List.flatten_cons]

theorem lower_eq_flatten (cs : List Char) :
    ∃ pieces, lower cs = pieces.flatten ∧ List.Forall₂ LowerOf cs pieces :=
  lowerAfter_eq_flatten [] cs

theorem lowerChar_of_mem_lower {cs : List Char} {d : Char} (h : d ∈ lower cs) :
    lowerChar d = [d] := by
  obtain ⟨pieces, hpieces, hof⟩ := lower_eq_flatten cs
  rw [hpieces] at h
  clear hpieces
  induction hof with
  | nil => exact nomatch h
  | cons hpiece _ ih =>
    rcases List.mem_append.mp h with h | h
    · exact lowerChar_of_lowerOf hpiece h
    · exact ih h

theorem lowerAfter_eq_self {cs : List Char} (h : ∀ c ∈ cs, lowerChar c = [c]) (before : List Char) :
    lowerAfter before cs = cs := by
  induction cs generalizing before with
  | nil => rfl
  | cons c rest ih =>
    have hc := h c List.mem_cons_self
    have hsigma : c ≠ '\u03A3' := by
      rintro rfl
      rw [lowerChar_sigma] at hc
      exact absurd hc (by decide)
    rw [lowerAfter, if_neg hsigma, hc, ih fun c hc => h c (List.mem_cons_of_mem _ hc)]
    rfl

theorem lower_lower (cs : List Char) : lower (lower cs) = lower cs :=
  lowerAfter_eq_self (fun _ => lowerChar_of_mem_lower) []

theorem lower_eq_nil_iff (cs : List Char) : lower cs = [] ↔ cs = [] := by
  obtain ⟨pieces, hpieces, hof⟩ := lower_eq_flatten cs
  rw [hpieces]
  exact flatten_eq_nil_iff (hof.imp fun _ _ => stands_lowerOf)

theorem trimmed_lower {cs : List Char} (h : Trimmed cs) : Trimmed (lower cs) := by
  obtain ⟨pieces, hpieces, hof⟩ := lower_eq_flatten cs
  rw [hpieces]
  exact trimmed_flatten (hof.imp fun _ _ => stands_lowerOf) h

end Lower

section Divider

/-- A character that neither is a letter nor is passed over in search of one. -/
structure IsDivider (d : Char) : Prop where
  notIgnorable : isCaseIgnorable d = false
  notCased : isCased d = false
  lowerChar : lowerChar d = [d]

variable {d : Char} (h : IsDivider d)
include h

theorem IsDivider.ne_sigma : d ≠ '\u03A3' := by
  rintro rfl
  exact absurd h.notCased (by decide)

/-- The search for a letter ends at a divider. -/
theorem meetsCased_append_cons (cs ds : List Char) :
    meetsCased (cs ++ d :: ds) = meetsCased cs := by
  unfold meetsCased
  induction cs with
  | nil =>
    rw [List.nil_append, List.dropWhile_cons_of_neg (by simp [h.notIgnorable])]
    exact h.notCased
  | cons c rest ih =>
    cases hc : isCaseIgnorable c with
    | true => rwa [List.cons_append, List.dropWhile_cons_of_pos hc, List.dropWhile_cons_of_pos hc]
    | false =>
      rw [List.cons_append, List.dropWhile_cons_of_neg (by simp [hc]),
        List.dropWhile_cons_of_neg (by simp [hc])]

theorem lowerAfter_append_cons (before past cs : List Char) :
    lowerAfter (before ++ d :: past) cs = lowerAfter before cs := by
  induction cs generalizing before with
  | nil => rfl
  | cons c rest ih =>
    rw [lowerAfter, lowerAfter, meetsCased_append_cons h, ← List.cons_append, ih]

/-- What stands on either side of a divider is put in lower case on its own. -/
theorem lower_append_cons (cs ds : List Char) :
    lower (cs ++ d :: ds) = lower cs ++ d :: lower ds := by
  have hafter (before : List Char) :
      lowerAfter before (cs ++ d :: ds) = lowerAfter before cs ++ d :: lower ds := by
    induction cs generalizing before with
    | nil =>
      have hrest := lowerAfter_append_cons h [] before ds
      rw [List.nil_append] at hrest
      change lowerAfter before (d :: ds) = d :: lower ds
      rw [lowerAfter, if_neg h.ne_sigma, h.lowerChar, hrest]
      rfl
    | cons c rest ih =>
      rw [List.cons_append, lowerAfter, lowerAfter, meetsCased_append_cons h, ih,
        List.append_assoc]
  exact hafter []

end Divider

section Upper

theorem stands_map_upperChar (cs : List Char) : List.Forall₂ Stands cs (cs.map upperChar) := by
  rw [List.forall₂_map_right_iff, List.forall₂_same]
  exact fun c _ => stands_upperChar c

theorem upper_append (cs ds : List Char) : upper (cs ++ ds) = upper cs ++ upper ds :=
  List.flatMap_append

theorem upper_upper (cs : List Char) : upper (upper cs) = upper cs := by
  have hself : ∀ d ∈ upper cs, upperChar d = [d] := by
    intro d hd
    obtain ⟨c, -, hc⟩ := List.mem_flatMap.mp hd
    exact upperChar_of_mem_upperChar hc
  rw [upper, List.flatMap_congr hself, List.flatMap_singleton']

theorem mem_of_mem_upper {d : Char} (hd : d.toNat ∉ capitals) {cs : List Char}
    (h : d ∈ upper cs) : d ∈ cs := by
  obtain ⟨c, hc, hupper⟩ := List.mem_flatMap.mp h
  exact ((mem_upperChar hupper).resolve_left hd).1 ▸ hc

theorem upper_eq_nil_iff (cs : List Char) : upper cs = [] ↔ cs = [] := by
  rw [upper, List.flatMap_def]
  exact flatten_eq_nil_iff (stands_map_upperChar cs)

theorem trimmed_upper {cs : List Char} (h : Trimmed cs) : Trimmed (upper cs) := by
  rw [upper, List.flatMap_def]
  exact trimmed_flatten (stands_map_upperChar cs) h

end Upper

section Ascii

theorem toLower_cases (c : Char) :
    c.toLower = c ∨ ∃ n < 26, c = Char.ofNat (0x41 + n) ∧ c.toLower = Char.ofNat (0x61 + n) := by
  by_cases hc : 0x41 ≤ c.toNat ∧ c.toNat ≤ 0x5A
  · have hlower : ∀ n < 26, (Char.ofNat (0x41 + n)).toLower = Char.ofNat (0x61 + n) := by decide
    have heq : c = Char.ofNat (0x41 + (c.toNat - 0x41)) := by
      rw [Nat.add_sub_cancel' hc.1, Char.ofNat_toNat]
    exact Or.inr ⟨c.toNat - 0x41, by omega, heq, by rw [← hlower _ (by omega), ← heq]⟩
  · exact Or.inl (dif_neg hc)

/-- What does not tell the ASCII letters of the two cases apart. -/
theorem comp_toLower {α : Type} {f : Char → α}
    (h : ∀ n < 26, f (Char.ofNat (0x61 + n)) = f (Char.ofNat (0x41 + n))) (c : Char) :
    f c.toLower = f c := by
  rcases toLower_cases c with hsame | ⟨n, hn, hc, hlower⟩
  · rw [hsame]
  · rw [hlower, h n hn, ← hc]

theorem isBlank_toLower (c : Char) : isBlank c.toLower = isBlank c :=
  comp_toLower (by decide) c

theorem isCased_toLower (c : Char) : isCased c.toLower = isCased c :=
  comp_toLower (by decide) c

theorem isCaseIgnorable_toLower (c : Char) : isCaseIgnorable c.toLower = isCaseIgnorable c :=
  comp_toLower (by decide +kernel) c

theorem lowerChar_toLower (c : Char) : lowerChar c.toLower = lowerChar c :=
  comp_toLower (by decide) c

theorem upperChar_toLower (c : Char) : upperChar c.toLower = upperChar c :=
  comp_toLower (by decide) c

theorem toLower_eq_sigma_iff (c : Char) : c.toLower = '\u03A3' ↔ c = '\u03A3' := by
  have hbeq : (c.toLower == '\u03A3') = (c == '\u03A3') :=
    comp_toLower (f := fun c => c == '\u03A3') (by decide) c
  rw [← beq_iff_eq, hbeq, beq_iff_eq]

theorem meetsCased_map_toLower (cs : List Char) :
    meetsCased (cs.map Char.toLower) = meetsCased cs := by
  have hskip : isCaseIgnorable ∘ Char.toLower = isCaseIgnorable := funext isCaseIgnorable_toLower
  rw [meetsCased, meetsCased, List.dropWhile_map, hskip]
  cases cs.dropWhile isCaseIgnorable with
  | nil => rfl
  | cons c _ => exact isCased_toLower c

theorem lowerAfter_map_toLower (before cs : List Char) :
    lowerAfter (before.map Char.toLower) (cs.map Char.toLower) = lowerAfter before cs := by
  induction cs generalizing before with
  | nil => rfl
  | cons c rest ih =>
    have hrest := ih (c :: before)
    rw [List.map_cons] at hrest
    rw [List.map_cons, lowerAfter, lowerAfter, hrest, meetsCased_map_toLower,
      meetsCased_map_toLower, lowerChar_toLower]
    simp only [toLower_eq_sigma_iff]

theorem lower_map_toLower (cs : List Char) : lower (cs.map Char.toLower) = lower cs :=
  lowerAfter_map_toLower [] cs

theorem upper_map_toLower (cs : List Char) : upper (cs.map Char.toLower) = upper cs := by
  rw [upper, List.flatMap_map]
  simp only [upperChar_toLower]
  rfl

end Ascii

end MarketDesk.Text

import MarketDesk.Proofs.Text.Blank
import MarketDesk.Text.Case

/-!
# What the tables of letter case map to

Each run of a table moves its code points, the sources, to others, the targets. No target of the
lower case is a source of it, so a character in lower case stays as it is, and the upper case is
like that too, with what it expands characters to. Neither case has a blank among its sources or
targets. Sets of code points are compared as the bits of numbers, which takes one operation for a
whole table.
-/

namespace MarketDesk.Text

def CaseRun.points (r : CaseRun) : List Nat :=
  (List.range ((r.last - r.first) / r.step + 1)).map fun k => r.first + r.step * k

def sources (runs : List CaseRun) : List Nat := runs.flatMap CaseRun.points

def targets (runs : List CaseRun) : List Nat :=
  runs.flatMap fun r => r.points.map fun (n : Nat) => (Char.ofNat (Int.toNat (n + r.shift))).toNat

def bits (ns : List Nat) : Nat := ns.foldr (fun n m => 1 <<< n ||| m) 0

theorem testBit_bits (ns : List Nat) (n : Nat) : (bits ns).testBit n = true ↔ n ∈ ns := by
  induction ns with
  | nil => simp [bits]
  | cons m rest ih =>
    have hbits : bits (m :: rest) = 1 <<< m ||| bits rest := rfl
    rw [hbits, Nat.testBit_or, Bool.or_eq_true, ih, Nat.one_shiftLeft, Nat.testBit_two_pow,
      decide_eq_true_eq, List.mem_cons, eq_comm]

theorem not_mem_of_bits {ns ms : List Nat} (h : bits ns &&& bits ms = 0) {n : Nat} (hn : n ∈ ns) :
    n ∉ ms := by
  intro hm
  have hboth : (bits ns &&& bits ms).testBit n = true := by
    rw [Nat.testBit_and, (testBit_bits ns n).mpr hn, (testBit_bits ms n).mpr hm, Bool.and_true]
  rw [h, Nat.zero_testBit] at hboth
  exact nomatch hboth

theorem CaseRun.mem_points {r : CaseRun} {n : Nat} (h : r.covers n = true) : n ∈ r.points := by
  simp only [covers, Bool.and_eq_true, decide_eq_true_eq, beq_iff_eq] at h
  obtain ⟨⟨hfirst, hlast⟩, hstep⟩ := h
  refine List.mem_map.mpr ⟨(n - r.first) / r.step, ?_, ?_⟩
  · rw [List.mem_range, Nat.lt_succ_iff]
    exact Nat.div_le_div_right (Nat.sub_le_sub_right hlast r.first)
  · rw [Nat.mul_div_cancel' (Nat.dvd_of_mod_eq_zero hstep), Nat.add_sub_cancel' hfirst]

theorem shiftBy_cases (runs : List CaseRun) (c : Char) :
    (c.toNat ∈ sources runs ∧ (shiftBy runs c).toNat ∈ targets runs) ∨ shiftBy runs c = c := by
  unfold shiftBy
  split
  · next r hr =>
    have hmem := List.mem_of_find?_eq_some hr
    have hcovers := List.find?_some hr
    have hpoint : c.toNat ∈ r.points := CaseRun.mem_points hcovers
    exact Or.inl ⟨List.mem_flatMap.mpr ⟨r, hmem, hpoint⟩,
      List.mem_flatMap.mpr ⟨r, hmem, List.mem_map.mpr ⟨_, hpoint, rfl⟩⟩⟩
  · exact Or.inr rfl

theorem shiftBy_of_not_mem {runs : List CaseRun} {c : Char} (h : c.toNat ∉ sources runs) :
    shiftBy runs c = c :=
  (shiftBy_cases runs c).resolve_left fun hsource => h hsource.1

section Blanks

def blanks : List Nat :=
  [9, 10, 11, 12, 13, 0x20, 0x85, 0xA0, 0x1680, 0x2000, 0x2001, 0x2002, 0x2003, 0x2004, 0x2005,
    0x2006, 0x2007, 0x2008, 0x2009, 0x200A, 0x2028, 0x2029, 0x202F, 0x205F, 0x3000]

theorem mem_blanks {c : Char} (h : isBlank c = true) : c.toNat ∈ blanks := by
  simp only [isBlank, Bool.or_eq_true, Bool.and_eq_true, decide_eq_true_eq, beq_iff_eq] at h
  simp only [blanks, List.mem_cons]
  omega

/-- The code points that the tables have to do with, but for the dotted capital I. -/
def tables : List (List Nat) :=
  [sources lowerRuns, targets lowerRuns, sources upperRuns, targets upperRuns,
    upperExpansions.map Prod.fst,
    upperExpansions.flatMap fun e => e.2.map fun n => (Char.ofNat n).toNat]

theorem blanks_tables : bits blanks &&& bits tables.flatten = 0 := by decide +kernel

theorem isBlank_eq_false {ns : List Nat} (hns : ns ∈ tables) {c : Char} (hc : c.toNat ∈ ns) :
    isBlank c = false :=
  Bool.eq_false_iff.mpr fun hblank =>
    not_mem_of_bits blanks_tables (mem_blanks hblank) (List.mem_flatten.mpr ⟨ns, hns, hc⟩)

theorem isBlank_shiftBy {runs : List CaseRun} (hsources : sources runs ∈ tables)
    (htargets : targets runs ∈ tables) (c : Char) : isBlank (shiftBy runs c) = isBlank c := by
  rcases shiftBy_cases runs c with ⟨hsource, htarget⟩ | hsame
  · rw [isBlank_eq_false hsources hsource, isBlank_eq_false htargets htarget]
  · rw [hsame]

end Blanks

section Lower

/-- What comes out of the lower case: what the dotted capital I becomes, the final sigma, and the
targets of the table. -/
def smalls : List Nat := 0x69 :: 0x307 :: 0x3C2 :: targets lowerRuns

theorem smalls_sources : bits smalls &&& bits (0x130 :: sources lowerRuns) = 0 := by decide +kernel

theorem lowerChar_of_ne {c : Char} (h : c ≠ '\u0130') : lowerChar c = [shiftBy lowerRuns c] :=
  if_neg h

theorem lowerChar_dotted : lowerChar '\u0130' = ['i', '\u0307'] := if_pos rfl

theorem lowerChar_of_mem_smalls {c : Char} (h : c.toNat ∈ smalls) : lowerChar c = [c] := by
  have hsource := not_mem_of_bits smalls_sources h
  have hdotted : c ≠ '\u0130' := by
    rintro rfl
    exact hsource List.mem_cons_self
  rw [lowerChar_of_ne hdotted, shiftBy_of_not_mem fun hc => hsource (List.mem_cons_of_mem _ hc)]

theorem stands_lowerChar (c : Char) : Stands c (lowerChar c) := by
  by_cases hc : c = '\u0130'
  · rw [hc, lowerChar_dotted]
    refine ⟨List.cons_ne_nil _ _, fun d hd => ?_⟩
    rw [List.mem_cons, List.mem_singleton] at hd
    rcases hd with rfl | rfl
    · rfl
    · rfl
  · have hsources : sources lowerRuns ∈ tables := .head _
    have htargets : targets lowerRuns ∈ tables := .tail _ (.head _)
    rw [lowerChar_of_ne hc]
    refine ⟨List.cons_ne_nil _ _, fun d hd => ?_⟩
    rw [List.mem_singleton.mp hd, isBlank_shiftBy hsources htargets]

/-- A character in lower case is its own lower case. -/
theorem lowerChar_of_mem_lowerChar {c d : Char} (h : d ∈ lowerChar c) : lowerChar d = [d] := by
  by_cases hc : c = '\u0130'
  · rw [hc, lowerChar_dotted, List.mem_cons, List.mem_singleton] at h
    rcases h with rfl | rfl
    · exact lowerChar_of_mem_smalls (.head _)
    · exact lowerChar_of_mem_smalls (.tail _ (.head _))
  · rw [lowerChar_of_ne hc, List.mem_singleton] at h
    rcases shiftBy_cases lowerRuns c with ⟨-, htarget⟩ | hsame
    · rw [← h] at htarget
      exact lowerChar_of_mem_smalls (.tail _ (.tail _ (.tail _ htarget)))
    · rw [hsame] at h
      rw [h, lowerChar_of_ne hc, hsame]

theorem lowerChar_sigma : lowerChar '\u03A3' = ['\u03C3'] := by decide

theorem lowerChar_finalSigma : lowerChar '\u03C2' = ['\u03C2'] :=
  lowerChar_of_mem_smalls (.tail _ (.tail _ (.head _)))

end Lower

section Upper

theorem ne_nil_of_mem_upperExpansions : ∀ e ∈ upperExpansions, e.2 ≠ [] := by decide

/-- The code points that the expansions consist of. -/
def expanded : List Nat :=
  upperExpansions.flatMap fun e => e.2.map fun n => (Char.ofNat n).toNat

/-- A character is expanded in upper case or goes by the runs of the table. -/
theorem upperChar_cases (c : Char) :
    (∃ e ∈ upperExpansions, e.1 = c.toNat ∧ upperChar c = e.2.map Char.ofNat) ∨
      upperChar c = [shiftBy upperRuns c] := by
  unfold upperChar
  split
  · next e he =>
    have hkey := List.find?_some he
    exact Or.inl ⟨e, List.mem_of_find?_eq_some he, beq_iff_eq.mp hkey, rfl⟩
  · exact Or.inr rfl

theorem mem_expanded {e : Nat × List Nat} (he : e ∈ upperExpansions) {d : Char}
    (hd : d ∈ e.2.map Char.ofNat) : d.toNat ∈ expanded := by
  obtain ⟨n, hn, rfl⟩ := List.mem_map.mp hd
  exact List.mem_flatMap.mpr ⟨e, he, List.mem_map.mpr ⟨n, hn, rfl⟩⟩

theorem stands_upperChar (c : Char) : Stands c (upperChar c) := by
  rcases upperChar_cases c with ⟨e, he, hkey, hupper⟩ | hupper
  · have hkeys : upperExpansions.map Prod.fst ∈ tables := by simp [tables]
    have hpieces : expanded ∈ tables := by simp [tables, expanded]
    have hc : isBlank c = false := isBlank_eq_false hkeys (List.mem_map.mpr ⟨e, he, hkey⟩)
    rw [hupper]
    refine ⟨fun hnil => ?_, fun d hd => ?_⟩
    · exact ne_nil_of_mem_upperExpansions e he (List.map_eq_nil_iff.mp hnil)
    · rw [hc, isBlank_eq_false hpieces (mem_expanded he hd)]
  · have hsources : sources upperRuns ∈ tables := by simp [tables]
    have htargets : targets upperRuns ∈ tables := by simp [tables]
    rw [hupper]
    refine ⟨List.cons_ne_nil _ _, fun d hd => ?_⟩
    rw [List.mem_singleton.mp hd, isBlank_shiftBy hsources htargets]

/-- What comes out of the upper case: the targets of the table and the expansions. -/
def capitals : List Nat := targets upperRuns ++ expanded

theorem capitals_sources :
    bits capitals &&& bits (upperExpansions.map Prod.fst ++ sources upperRuns) = 0 := by
  decide +kernel

theorem upperChar_of_mem_capitals {c : Char} (h : c.toNat ∈ capitals) : upperChar c = [c] := by
  have hsource := not_mem_of_bits capitals_sources h
  rw [List.mem_append, not_or] at hsource
  rcases upperChar_cases c with ⟨e, he, hkey, -⟩ | hupper
  · exact absurd (List.mem_map.mpr ⟨e, he, hkey⟩) hsource.1
  · rw [hupper, shiftBy_of_not_mem hsource.2]

/-- What a character becomes in upper case comes out of the tables, or is the character itself. -/
theorem mem_upperChar {c d : Char} (h : d ∈ upperChar c) :
    d.toNat ∈ capitals ∨ d = c ∧ upperChar c = [c] := by
  rcases upperChar_cases c with ⟨e, he, -, hupper⟩ | hupper
  · rw [hupper] at h
    exact Or.inl (List.mem_append_right _ (mem_expanded he h))
  · rw [hupper, List.mem_singleton] at h
    subst h
    rcases shiftBy_cases upperRuns c with ⟨-, htarget⟩ | hsame
    · exact Or.inl (List.mem_append_left _ htarget)
    · rw [hupper, hsame]
      exact Or.inr ⟨rfl, rfl⟩

/-- A character in upper case is its own upper case. -/
theorem upperChar_of_mem_upperChar {c d : Char} (h : d ∈ upperChar c) : upperChar d = [d] := by
  rcases mem_upperChar h with hcapital | ⟨rfl, hself⟩
  · exact upperChar_of_mem_capitals hcapital
  · exact hself

end Upper

end MarketDesk.Text

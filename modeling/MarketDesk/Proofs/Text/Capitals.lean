import MarketDesk.Proofs.Text.Case

/-!
# Capitals of small letters

The capitals of a text are those of its small letters, unless it has one of six letters in it. Each
of these is a capital that has a small letter, but that letter has other capitals. For all others,
where the small letter is in a run of the lower case there is a run of the upper case that undoes
it, or the letter and its small letter are found to have the same capitals. The six stay in a text
in capitals, and no text in small letters leads to them.
-/

namespace MarketDesk.Text

section Runs

def CaseRun.Below (r u : CaseRun) : Prop := r.last < u.first ∧ u.first ≤ u.last

instance : DecidableRel CaseRun.Below :=
  fun r u => inferInstanceAs (Decidable (r.last < u.first ∧ u.first ≤ u.last))

instance : Trans CaseRun.Below CaseRun.Below CaseRun.Below where
  trans hru huv := ⟨hru.1.trans (Nat.lt_of_le_of_lt hru.2 huv.1), huv.2⟩

theorem upperRuns_pairwise_below : upperRuns.Pairwise CaseRun.Below :=
  List.isChain_iff_pairwise.mp (by decide +kernel)

/-- In a table of runs one above the other, no run before the one that covers a code point does. -/
theorem find?_covers {runs : List CaseRun} (h : runs.Pairwise CaseRun.Below) {u : CaseRun}
    (hu : u ∈ runs) {n : Nat} (hn : u.covers n = true) :
    runs.find? (fun r => r.covers n) = some u := by
  induction h with
  | nil => exact nomatch hu
  | @cons r rest hbelow _ ih =>
    rcases List.mem_cons.mp hu with rfl | hu
    · exact List.find?_cons_of_pos hn
    · have hfirst : u.first ≤ n := by
        simp only [CaseRun.covers, Bool.and_eq_true, decide_eq_true_eq] at hn
        exact hn.1.1
      have hlast : r.last < n := Nat.lt_of_lt_of_le (hbelow u hu).1 hfirst
      have hnot : r.covers n = false := by
        rw [← Bool.not_eq_true]
        simp only [CaseRun.covers, Bool.and_eq_true, decide_eq_true_eq]
        omega
      rw [List.find?_cons, hnot, ih hu]

/-- Where a run leads to there are characters, and another run leads from there back to it. -/
def CaseRun.undoneBy (r u : CaseRun) : Bool :=
  r.shift + u.shift == 0 && 0 ≤ r.first + r.shift && r.step % u.step == 0 &&
    u.covers (r.first + r.shift).toNat && r.last + r.shift ≤ u.last &&
    (r.last + r.shift < 0xD800 || 0xDFFF < r.first + r.shift && r.last + r.shift < 0x110000)

theorem CaseRun.covers_of_undoneBy {r u : CaseRun} (h : r.undoneBy u = true) {c : Char}
    (hc : r.covers c.toNat = true) :
    let d := Char.ofNat (c.toNat + r.shift).toNat
    u.covers d.toNat = true ∧ Char.ofNat (d.toNat + u.shift).toNat = c := by
  simp only [CaseRun.undoneBy, CaseRun.covers, Bool.and_eq_true, Bool.or_eq_true,
    decide_eq_true_eq, beq_iff_eq] at h hc
  obtain ⟨⟨⟨⟨⟨hshift, hnonneg⟩, hdvd⟩, ⟨hfirst, -⟩, hstart⟩, hlast⟩, hvalid⟩ := h
  obtain ⟨⟨hlow, hhigh⟩, hstep⟩ := hc
  obtain ⟨n, hn⟩ : ∃ n : Nat, (n : Int) = c.toNat + r.shift := ⟨(c.toNat + r.shift).toNat, by omega⟩
  have hto : (c.toNat + r.shift).toNat = n := by omega
  have hchar : (Char.ofNat n).toNat = n := by
    have hvalid : n.isValidChar := by
      unfold Nat.isValidChar
      omega
    rw [Char.ofNat, dif_pos hvalid]
    rfl
  have hmod : (n - u.first) % u.step = 0 := by
    have hsplit : n - u.first =
        ((r.first + r.shift).toNat - u.first) + (c.toNat - r.first) := by omega
    have hpast : u.step ∣ c.toNat - r.first :=
      Nat.dvd_trans (Nat.dvd_of_mod_eq_zero hdvd) (Nat.dvd_of_mod_eq_zero hstep)
    rw [hsplit]
    exact Nat.mod_eq_zero_of_dvd (Nat.dvd_add (Nat.dvd_of_mod_eq_zero hstart) hpast)
  have hback : ((n : Int) + u.shift).toNat = c.toNat := by omega
  intro d
  have hd : d.toNat = n := by rw [← hchar, ← hto]
  rw [hd, hback, Char.ofNat_toNat]
  refine ⟨?_, rfl⟩
  simp only [CaseRun.covers, Bool.and_eq_true, decide_eq_true_eq, beq_iff_eq]
  omega

end Runs

/-- The capitals that are not the capitals of their small letters: the dotted I, the theta symbol,
the sharp S, and the signs of ohm, kelvin and ångström. -/
def loneCapitals : List Char := ['\u0130', '\u03F4', '\u1E9E', '\u2126', '\u212A', '\u212B']

section Characters

theorem expansions_sources :
    bits (upperExpansions.map Prod.fst) &&& bits (sources upperRuns) = 0 := by decide +kernel

/-- Every run of the lower case is undone by one of the upper case, or leads from letters to such
with the same capitals. -/
theorem undone_or_alike : ∀ r ∈ lowerRuns, upperRuns.any r.undoneBy = true ∨
    r.points.all (fun (n : Nat) => loneCapitals.contains (Char.ofNat n) ||
      upperChar (Char.ofNat (n + r.shift).toNat) == upperChar (Char.ofNat n)) = true := by
  decide +kernel

theorem upperChar_of_mem_sources {c : Char} (h : c.toNat ∈ sources upperRuns) :
    upperChar c = [shiftBy upperRuns c] := by
  rcases upperChar_cases c with ⟨e, he, hkey, -⟩ | hupper
  · exact absurd h (not_mem_of_bits expansions_sources (List.mem_map.mpr ⟨e, he, hkey⟩))
  · exact hupper

theorem upperChar_of_undoneBy {r u : CaseRun} (hu : u ∈ upperRuns) (h : r.undoneBy u = true)
    {c : Char} (hc : r.covers c.toNat = true) :
    upperChar (Char.ofNat (c.toNat + r.shift).toNat) = [c] := by
  obtain ⟨hcovers, hback⟩ := CaseRun.covers_of_undoneBy h hc
  have hsource := List.mem_flatMap.mpr ⟨u, hu, CaseRun.mem_points hcovers⟩
  rw [upperChar_of_mem_sources hsource, shiftBy, find?_covers upperRuns_pairwise_below hu hcovers]
  exact congrArg List.singleton hback

theorem upper_singleton (c : Char) : upper [c] = upperChar c := List.flatMap_singleton upperChar c

theorem upper_lowerChar {c : Char} (h : c ∉ loneCapitals) : upper (lowerChar c) = upperChar c := by
  have hdotted : c ≠ '\u0130' := fun hc => h (hc ▸ List.mem_cons_self)
  rw [lowerChar_of_ne hdotted, upper_singleton]
  unfold shiftBy
  split
  · next r hr =>
    have hcovers := List.find?_some hr
    rcases undone_or_alike r (List.mem_of_find?_eq_some hr) with hundone | halike
    · obtain ⟨u, hu, hback⟩ := List.any_eq_true.mp hundone
      have hupper := upperChar_of_undoneBy hu hback hcovers
      have hself : upperChar c = [c] := upperChar_of_mem_upperChar (hupper ▸ List.mem_cons_self)
      rw [hupper, hself]
    · have hpoint := List.all_eq_true.mp halike _ (CaseRun.mem_points hcovers)
      rw [Char.ofNat_toNat, Bool.or_eq_true, List.contains_iff_mem, beq_iff_eq] at hpoint
      exact hpoint.resolve_left h
  · rfl

theorem loneCapitals_capitals : bits (loneCapitals.map Char.toNat) &&& bits capitals = 0 := by
  decide +kernel

theorem upperChar_of_mem_loneCapitals {c : Char} (hc : c ∈ loneCapitals) : upperChar c = [c] := by
  have hall : loneCapitals.all (fun c => upperChar c == [c]) = true := by decide +kernel
  exact beq_iff_eq.mp (List.all_eq_true.mp hall c hc)

theorem lowerChar_of_mem_loneCapitals {c : Char} (hc : c ∈ loneCapitals) : lowerChar c ≠ [c] := by
  have hall : loneCapitals.all (fun c => lowerChar c != [c]) = true := by decide +kernel
  exact bne_iff_ne.mp (List.all_eq_true.mp hall c hc)

end Characters

section Texts

theorem upper_of_lowerOf {c : Char} {piece : List Char} (h : LowerOf c piece)
    (hc : c ∉ loneCapitals) : upper piece = upperChar c := by
  rcases h with rfl | ⟨rfl, rfl⟩
  · exact upper_lowerChar hc
  · decide +kernel

theorem upper_lower {cs : List Char} (h : ∀ c ∈ cs, c ∉ loneCapitals) :
    upper (lower cs) = upper cs := by
  obtain ⟨pieces, hpieces, hof⟩ := lower_eq_flatten cs
  rw [hpieces]
  clear hpieces
  induction hof with
  | nil => rfl
  | @cons c piece cs pieces hpiece _ ih =>
    have hrest := ih fun d hd => h d (List.mem_cons_of_mem _ hd)
    rw [List.flatten_cons, upper_append, hrest, upper_of_lowerOf hpiece (h c List.mem_cons_self)]
    rfl

theorem mem_upper_of_mem_loneCapitals {c : Char} (hc : c ∈ loneCapitals) {cs : List Char}
    (h : c ∈ cs) : c ∈ upper cs :=
  List.mem_flatMap.mpr ⟨c, h, upperChar_of_mem_loneCapitals hc ▸ List.mem_cons_self⟩

theorem notMem_upper_lower {c : Char} (hc : c ∈ loneCapitals) (cs : List Char) :
    c ∉ upper (lower cs) := by
  intro h
  have hcapital := not_mem_of_bits loneCapitals_capitals (List.mem_map_of_mem hc)
  exact lowerChar_of_mem_loneCapitals hc (lowerChar_of_mem_lower (mem_of_mem_upper hcapital h))

end Texts

end MarketDesk.Text

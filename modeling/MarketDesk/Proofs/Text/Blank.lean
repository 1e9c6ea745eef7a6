import MarketDesk.Text.Basic
import Mathlib.Data.List.DropRight
import Mathlib.Data.List.Forall2

/-!
# Texts without blanks at their ends

`trim` takes the blanks at both ends of a text away. It leaves a text that neither begins nor ends
with a blank, and leaves such a text alone. Nothing is left only of a text of blanks. Blanks put at
either end of a text do not change what `trim` makes of it. A text stays trimmed if each of its
characters is replaced by some characters that are blank only if it is.
-/

namespace MarketDesk.Text

structure Trimmed (cs : List Char) : Prop where
  head : ∀ c, cs.head? = some c → isBlank c = false
  last : ∀ c, cs.getLast? = some c → isBlank c = false

theorem trimStart_eq_self {cs : List Char} (h : Trimmed cs) : trimStart cs = cs := by
  cases cs with
  | nil => rfl
  | cons c rest => exact List.dropWhile_cons_of_neg (Bool.eq_false_iff.mp (h.head c rfl))

theorem trimEnd_eq_self {cs : List Char} (h : Trimmed cs) : trimEnd cs = cs :=
  List.rdropWhile_eq_self_iff.mpr fun hne =>
    Bool.eq_false_iff.mp (h.last _ (List.getLast?_eq_some_getLast hne))

theorem trim_eq_self {cs : List Char} (h : Trimmed cs) : trim cs = cs := by
  rw [trim, trimStart_eq_self h, trimEnd_eq_self h]

theorem trimmed_trim (cs : List Char) : Trimmed (trim cs) where
  head c hc := by
    have hprefix : trim cs <+: trimStart cs := List.rdropWhile_prefix isBlank _
    have hhead : (trimStart cs).head? = some c := by
      obtain ⟨rest, hrest⟩ := hprefix
      rw [← hrest, List.head?_append, hc, Option.some_or]
    have hnot := List.head?_dropWhile_not isBlank cs
    rw [← trimStart, hhead] at hnot
    exact hnot
  last c hc := by
    have hne : trim cs ≠ [] := fun h => by rw [h] at hc; exact nomatch hc
    have hlast := List.rdropWhile_last_not isBlank (trimStart cs) hne
    rw [List.getLast?_eq_some_getLast hne, Option.some.injEq] at hc
    exact hc ▸ Bool.eq_false_iff.mpr hlast

theorem trim_trim (cs : List Char) : trim (trim cs) = trim cs :=
  trim_eq_self (trimmed_trim cs)

theorem trim_cons {b : Char} (hb : isBlank b = true) (cs : List Char) :
    trim (b :: cs) = trim cs := by
  rw [trim, trim, trimStart, List.dropWhile_cons_of_pos hb, trimStart]

theorem trim_concat {b : Char} (hb : isBlank b = true) (cs : List Char) :
    trim (cs ++ [b]) = trim cs := by
  have hb' : [b].dropWhile isBlank = [] := List.dropWhile_cons_of_pos hb
  rw [trim, trim, trimStart, List.dropWhile_append, hb', trimStart]
  split
  · next hempty => rw [List.isEmpty_iff.mp hempty]
  · exact List.rdropWhile_concat_pos isBlank _ b hb

/-- The blanks at both ends of a text, and what stands between them. -/
structure TrimsTo (cs core : List Char) : Prop where
  between : ∃ front back, cs = front ++ core ++ back ∧ (∀ c ∈ front, isBlank c = true) ∧
    ∀ c ∈ back, isBlank c = true
  trimmed : Trimmed core

theorem trimsTo_trim (cs : List Char) : TrimsTo cs (trim cs) where
  between := by
    refine ⟨cs.takeWhile isBlank, (trimStart cs).rtakeWhile isBlank, ?_, ?_, ?_⟩
    · have hend : trim cs ++ (trimStart cs).rtakeWhile isBlank = trimStart cs :=
        List.rdropWhile_append_rtakeWhile
      rw [List.append_assoc, hend]
      exact List.takeWhile_append_dropWhile.symm
    · exact fun c hc => List.mem_takeWhile_imp hc
    · exact fun c hc => List.mem_rtakeWhile_imp hc
  trimmed := trimmed_trim cs

theorem TrimsTo.mem {cs core : List Char} (h : TrimsTo cs core) {c : Char} (hc : c ∈ core) :
    c ∈ cs := by
  obtain ⟨front, back, rfl, -⟩ := h.between
  exact List.mem_append_left back (List.mem_append_right front hc)

theorem trim_ne_nil_iff {cs : List Char} : trim cs ≠ [] ↔ ∃ c ∈ cs, isBlank c = false := by
  constructor
  · intro hne
    obtain ⟨c, rest, hc⟩ := List.exists_cons_of_ne_nil hne
    refine ⟨c, (trimsTo_trim cs).mem ?_, (trimmed_trim cs).head c ?_⟩
    · rw [hc]
      exact List.mem_cons_self
    · rw [hc]
      rfl
  · rintro ⟨c, hc, hblank⟩ hnil
    obtain ⟨front, back, hcs, hfront, hback⟩ := (trimsTo_trim cs).between
    rw [hcs, hnil, List.append_nil, List.mem_append] at hc
    have htrue : isBlank c = true := hc.elim (hfront c) (hback c)
    rw [hblank] at htrue
    exact Bool.false_ne_true htrue

theorem trim_map {f : Char → Char} (hf : ∀ c, isBlank (f c) = isBlank c) (cs : List Char) :
    trim (cs.map f) = (trim cs).map f := by
  have hcomp : isBlank ∘ f = isBlank := funext hf
  have hstart (cs : List Char) : (cs.map f).dropWhile isBlank = (cs.dropWhile isBlank).map f := by
    rw [List.dropWhile_map, hcomp]
  rw [trim, trim, trimEnd, trimEnd, trimStart, trimStart, hstart, ← List.map_reverse, hstart,
    List.map_reverse]

/-- Characters that may stand for another: there are some, and they are blank just if it is. -/
def Stands (c : Char) (piece : List Char) : Prop :=
  piece ≠ [] ∧ ∀ d ∈ piece, isBlank d = isBlank c

variable {cs : List Char} {pieces : List (List Char)}

theorem flatten_eq_nil_iff (h : List.Forall₂ Stands cs pieces) : pieces.flatten = [] ↔ cs = [] := by
  cases h with
  | nil => exact Iff.rfl
  | cons hpiece _ =>
    refine iff_of_false (fun hnil => ?_) (List.cons_ne_nil _ _)
    exact hpiece.1 (List.append_eq_nil_iff.mp hnil).1

theorem head?_flatten (h : List.Forall₂ Stands cs pieces) {d : Char}
    (hd : pieces.flatten.head? = some d) : ∃ c, cs.head? = some c ∧ isBlank d = isBlank c := by
  cases h with
  | nil => exact nomatch hd
  | @cons c piece _ _ hpiece _ =>
    obtain ⟨e, rest, rfl⟩ := List.exists_cons_of_ne_nil hpiece.1
    obtain rfl : e = d := Option.some.inj hd
    exact ⟨c, rfl, hpiece.2 e List.mem_cons_self⟩

theorem trimmed_flatten (h : List.Forall₂ Stands cs pieces) (hcs : Trimmed cs) :
    Trimmed pieces.flatten where
  head d hd := by
    obtain ⟨c, hc, hblank⟩ := head?_flatten h hd
    rw [hblank, hcs.head c hc]
  last d hd := by
    -- the last character of a text is the first of the text read backwards
    have hback : List.Forall₂ Stands cs.reverse (pieces.map List.reverse).reverse := by
      rw [List.forall₂_reverse_iff, List.forall₂_map_right_iff]
      refine h.imp fun c piece hpiece => ⟨fun hnil => ?_, fun d hd => ?_⟩
      · exact hpiece.1 (List.reverse_eq_nil_iff.mp hnil)
      · exact hpiece.2 d (List.mem_reverse.mp hd)
    rw [← List.head?_reverse, List.reverse_flatten, ← List.map_reverse] at hd
    rw [← List.map_reverse] at hback
    obtain ⟨c, hc, hblank⟩ := head?_flatten hback hd
    rw [hblank, hcs.last c (List.head?_reverse.symm.trans hc)]

end MarketDesk.Text

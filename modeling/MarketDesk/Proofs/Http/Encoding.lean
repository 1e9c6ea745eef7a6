import MarketDesk.Proofs.Http.Query

/-!
# What the encoded form of parameters holds

Parameters that were set one after another are the names in the order in which they were first set,
each with the value that it was set to last. Their encoded form gives just that list back. It is
made of unreserved characters, percent signs and the two separators, with one `=` for each pair.
-/

namespace MarketDesk

namespace Http

/-- The characters that an encoded form is made of. -/
def IsWireSafe (c : Char) : Prop :=
  c.isAlphanum = true ∨ c ∈ ['-', '_', '.', '~', '%', '=', '&']

theorem isWireSafe_of_isUnreserved {c : Char} (h : Text.isUnreserved c = true) : IsWireSafe c := by
  simp only [Text.isUnreserved, Bool.or_eq_true, beq_iff_eq] at h
  simp only [IsWireSafe, List.mem_cons]
  tauto

theorem isWireSafe_of_mem_encodePair {pair : String × String} {c : Char}
    (h : c ∈ (Params.encodePair pair).toList) : IsWireSafe c := by
  have hencoded {s : String} (hs : c ∈ (Text.percentEncode s).toList) : IsWireSafe c := by
    rcases Text.isUnreserved_or_percent_of_mem hs with hun | rfl
    · exact isWireSafe_of_isUnreserved hun
    · exact Or.inr (by decide)
  rw [toList_encodePair, List.mem_append, List.mem_cons] at h
  rcases h with hkey | rfl | hvalue
  · exact hencoded hkey
  · exact Or.inr (by decide)
  · exact hencoded hvalue

theorem count_encodePair (pair : String × String) :
    (Params.encodePair pair).toList.count '=' = 1 := by
  have hnone (s : String) : (Text.percentEncode s).toList.count '=' = 0 :=
    List.count_eq_zero.mpr (Text.notMem_percentEncode (by decide) (by decide) s)
  rw [toList_encodePair, List.count_append, List.count_cons_self, hnone, hnone]

theorem toList_encodePairs_cons_cons (pair next : String × String) (rest : List (String × String)) :
    (encodePairs (pair :: next :: rest)).toList =
      (Params.encodePair pair).toList ++ '&' :: (encodePairs (next :: rest)).toList := by
  rw [← List.singleton_append, encodePairs_append (List.cons_ne_nil _ _) (List.cons_ne_nil _ _),
    encodePairs_singleton, String.toList_append, String.toList_append, List.append_assoc]
  rfl

theorem isWireSafe_of_mem_encodePairs {pairs : List (String × String)} {c : Char}
    (h : c ∈ (encodePairs pairs).toList) : IsWireSafe c := by
  induction pairs with
  | nil => exact nomatch h
  | cons pair rest ih =>
    cases rest with
    | nil =>
      rw [encodePairs_singleton] at h
      exact isWireSafe_of_mem_encodePair h
    | cons next rest =>
      rw [toList_encodePairs_cons_cons, List.mem_append, List.mem_cons] at h
      rcases h with hpair | rfl | hrest
      · exact isWireSafe_of_mem_encodePair hpair
      · exact Or.inr (by decide)
      · exact ih hrest

/-- Each pair has its own `=`, and a name or a value has none. -/
theorem count_encodePairs (pairs : List (String × String)) :
    (encodePairs pairs).toList.count '=' = pairs.length := by
  induction pairs with
  | nil => rfl
  | cons pair rest ih =>
    cases rest with
    | nil => rw [encodePairs_singleton, count_encodePair, List.length_singleton]
    | cons next rest =>
      rw [toList_encodePairs_cons_cons, List.count_append, count_encodePair,
        List.count_cons_of_ne (by decide), ih, Nat.add_comm]
      rfl

namespace Params

/-- Parameters that come from a list of pairs and from pairs that were set after it. -/
inductive BuiltBy : Params → List (String × String) → Prop
  | ofList (pairs : List (String × String)) : BuiltBy (ofList pairs) pairs
  | set {p : Params} {sets : List (String × String)} (h : BuiltBy p sets) (key value : String) :
      BuiltBy (p.set key value) (sets ++ [(key, value)])

theorem BuiltBy.entries_eq {p : Params} {sets : List (String × String)} (h : p.BuiltBy sets) :
    p.pairs.entries = Dictionary.settled sets := by
  have hofList : p.pairs = Dictionary.ofList sets := by
    induction h with
    | ofList pairs => rfl
    | set _ key value ih =>
      rw [Dictionary.ofList_concat, ← ih]
      rfl
  rw [hofList, Dictionary.entries_ofList]

/-- The encoded form gives the pairs back in their order, which are those that the parameters were
built by, so no two lists of parameters have one form. It can be sent as it is, and its `=` tell how
many pairs there are. -/
theorem encode_lossless (p : Params) :
    decodePairs? p.encode = some p.pairs.entries ∧ decodePairs? "" = some [] ∧
    (∀ sets, p.BuiltBy sets → p.pairs.entries = Dictionary.settled sets) ∧
    (∀ q : Params, p.encode = q.encode → p = q) ∧
    (∀ c ∈ p.encode.toList, IsWireSafe c) ∧ p.encode.toList.count '=' = p.size := by
  rw [encode_eq]
  exact ⟨decodePairs?_encodePairs _, rfl, fun _ => BuiltBy.entries_eq, fun q => encode_inj.mp,
    fun _ => isWireSafe_of_mem_encodePairs, count_encodePairs _⟩

end Params

end Http

end MarketDesk

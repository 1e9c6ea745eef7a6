import MarketDesk.Http
import MarketDesk.Proofs.Dictionary
import MarketDesk.Proofs.Text.Percent

/-!
# Reading query strings

A query string is cut at each `&`, a piece at its first `=`, and both halves are percent-decoded.
This gives back the pairs that were encoded, in their order, since neither separator occurs in
encoded text, so no two lists of parameters share an encoded form. Looking up a name gives the value
last set under it.
-/

namespace MarketDesk.Http

def encodePairs (pairs : List (String × String)) : String :=
  "&".intercalate (pairs.map Params.encodePair)

theorem Params.encode_eq (p : Params) : p.encode = encodePairs p.pairs.entries := rfl

def decodePair? (piece : List Char) : Option (String × String) :=
  match piece.dropWhile fun c => c ≠ '=' with
  | [] => none
  | _ :: value => do
      let key ← Text.percentDecode? (piece.takeWhile fun c => c ≠ '=')
      let value ← Text.percentDecode? value
      return (key, value)

def decodePairs? (text : String) : Option (List (String × String)) :=
  if text.isEmpty then some [] else (text.toList.splitOn '&').mapM decodePair?

theorem toList_encodePair (pair : String × String) :
    (Params.encodePair pair).toList =
      (Text.percentEncode pair.1).toList ++ '=' :: (Text.percentEncode pair.2).toList := by
  simp only [Params.encodePair, String.toList_append, List.append_assoc]
  rfl

theorem decodePair?_encodePair (pair : String × String) :
    decodePair? (Params.encodePair pair).toList = some pair := by
  have hkey : ∀ c ∈ (Text.percentEncode pair.1).toList, decide (c ≠ '=') = true := by
    rintro c hc
    rw [decide_eq_true_eq]
    rintro rfl
    exact Text.notMem_percentEncode (by decide) (by decide) pair.1 hc
  rw [toList_encodePair, decodePair?, List.dropWhile_append_of_pos hkey,
    List.takeWhile_append_of_pos hkey]
  simp [Text.percentDecode?_percentEncode]

theorem notMem_encodePair (pair : String × String) : '&' ∉ (Params.encodePair pair).toList := by
  rw [toList_encodePair, List.mem_append, List.mem_cons]
  rintro (h | h | h)
  · exact Text.notMem_percentEncode (by decide) (by decide) pair.1 h
  · exact absurd h (by decide)
  · exact Text.notMem_percentEncode (by decide) (by decide) pair.2 h

theorem toList_encodePairs (pairs : List (String × String)) :
    (encodePairs pairs).toList =
      ['&'].intercalate (pairs.map fun pair => (Params.encodePair pair).toList) := by
  rw [encodePairs, String.toList_intercalate, List.map_map]
  rfl

theorem encodePair_of_isUnreserved {key value : String}
    (hkey : ∀ c ∈ key.toList, Text.isUnreserved c = true)
    (hvalue : ∀ c ∈ value.toList, Text.isUnreserved c = true) :
    Params.encodePair (key, value) = key ++ "=" ++ value := by
  rw [Params.encodePair, Text.percentEncode_of_isUnreserved hkey,
    Text.percentEncode_of_isUnreserved hvalue]

theorem encodePairs_singleton (pair : String × String) :
    encodePairs [pair] = Params.encodePair pair := String.intercalate_singleton

theorem encodePairs_append {xs ys : List (String × String)} (hx : xs ≠ []) (hy : ys ≠ []) :
    encodePairs (xs ++ ys) = encodePairs xs ++ "&" ++ encodePairs ys := by
  have hxs : xs.map Params.encodePair ≠ [] := fun h => hx (List.map_eq_nil_iff.mp h)
  have hys : ys.map Params.encodePair ≠ [] := fun h => hy (List.map_eq_nil_iff.mp h)
  rw [encodePairs, List.map_append, String.intercalate_append_of_ne_nil hxs hys]
  rfl

/-- A text with pairs in it is not empty: each pair has its `=`. -/
theorem isEmpty_encodePairs (pairs : List (String × String)) :
    (encodePairs pairs).isEmpty = pairs.isEmpty := by
  cases pairs with
  | nil => rfl
  | cons pair rest =>
    have hpair : Params.encodePair pair ≠ "" := by
      intro h
      have hlist := congrArg String.toList h
      rw [toList_encodePair] at hlist
      exact List.append_ne_nil_of_right_ne_nil _ (List.cons_ne_nil _ _) hlist
    have hpairs : encodePairs (pair :: rest) ≠ "" := by
      cases rest with
      | nil => rwa [encodePairs_singleton]
      | cons next rest =>
        rw [← List.singleton_append,
          encodePairs_append (List.cons_ne_nil _ _) (List.cons_ne_nil _ _), encodePairs_singleton,
          String.append_assoc]
        exact fun h => hpair (String.append_eq_empty_iff.mp h).1
    rw [List.isEmpty_cons, ← Bool.not_eq_true, String.isEmpty_iff]
    exact hpairs

theorem mapM_decodePair?_encodePair (pairs : List (String × String)) :
    (pairs.map fun pair => (Params.encodePair pair).toList).mapM decodePair? = some pairs := by
  induction pairs with
  | nil => rfl
  | cons pair rest ih =>
    rw [List.map_cons, List.mapM_cons, decodePair?_encodePair, ih]
    rfl

/-- Encoded pairs are read back. -/
theorem decodePairs?_encodePairs (pairs : List (String × String)) :
    decodePairs? (encodePairs pairs) = some pairs := by
  unfold decodePairs?
  rw [isEmpty_encodePairs]
  cases pairs with
  | nil => rfl
  | cons pair rest =>
    have hsplit : (encodePairs (pair :: rest)).toList.splitOn '&' =
        (pair :: rest).map fun pair => (Params.encodePair pair).toList := by
      rw [toList_encodePairs]
      apply List.splitOn_intercalate
      · exact List.forall_mem_map.mpr fun pair _ => notMem_encodePair pair
      · exact List.cons_ne_nil _ _
    rw [hsplit, mapM_decodePair?_encodePair]
    rfl

namespace Params

theorem get?_empty (key : String) : empty.get? key = none := rfl

theorem get?_set (p : Params) (key value key' : String) :
    (p.set key value).get? key' = if key = key' then some value else p.get? key' :=
  Dictionary.get?_set p.pairs key key' value

theorem get?_setIfSome (p : Params) (key : String) (value : Option String) (key' : String) :
    (p.setIfSome key value).get? key' =
      (if key = key' then value else none).or (p.get? key') := by
  cases value with
  | none => rw [ite_self]; rfl
  | some value =>
    rw [setIfSome, get?_set]
    split <;> rfl

/-- The encoded form is read back, so no two lists of parameters share one. -/
theorem encode_inj {p q : Params} : p.encode = q.encode ↔ p = q := by
  constructor
  · intro h
    rw [encode_eq, encode_eq] at h
    have hentries := congrArg decodePairs? h
    rw [decodePairs?_encodePairs, decodePairs?_encodePairs, Option.some.injEq] at hentries
    cases p with | mk pairs => cases q with | mk pairs' =>
    cases pairs with | mk entries => cases pairs' with | mk entries' =>
    exact congrArg (fun entries => Params.mk ⟨entries⟩) hentries
  · exact congrArg encode

end Params

end MarketDesk.Http

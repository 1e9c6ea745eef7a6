import MarketDesk.Proofs.Http.Query

/-!
# Parameters in the order in which they were first set

Parameters hold each name once, where it was first set, with the value that it was set to last. To
collect pairs is to set them one after another, so this holds of any pairs that were collected, and
of all that were set after them.
-/

namespace MarketDesk.Http.Params

def setAll (p : Params) (pairs : List (String × String)) : Params :=
  pairs.foldl (fun p pair => p.set pair.1 pair.2) p

def names (p : Params) : List String := p.pairs.keys

/-- Parameters as the pairs that were set leave them: each name stands once, in the order of first
setting, with its last value, and a value that is replaced stays where it is. -/
structure AsSet (p : Params) (pairs : List (String × String)) : Prop where
  nodup : p.names.Nodup
  mem : ∀ key, key ∈ p.names ↔ key ∈ pairs.map Prod.fst
  ordered : p.names.Pairwise fun a b => (pairs.map Prod.fst).idxOf a < (pairs.map Prod.fst).idxOf b
  size : p.size = (pairs.map Prod.fst).toFinset.card
  last : ∀ before key value after, pairs = before ++ (key, value) :: after →
    key ∉ after.map Prod.fst → p.get? key = some value
  absent : ∀ key, p.get? key = none ↔ key ∉ pairs.map Prod.fst
  replaced : ∀ key value, key ∈ p.names → (p.set key value).pairs.entries =
    p.pairs.entries.map fun pair => if pair.1 = key then (key, value) else pair

theorem pairs_setAll (p : Params) (pairs : List (String × String)) :
    (p.setAll pairs).pairs = p.pairs.setAll pairs := by
  induction pairs generalizing p with
  | nil => rfl
  | cons pair rest ih => exact ih (p.set pair.1 pair.2)

theorem ofList_eq_setAll (pairs : List (String × String)) : ofList pairs = empty.setAll pairs :=
  congrArg Params.mk (pairs_setAll empty pairs).symm

/-- Pairs that are set after others were collected are like those that are collected with them. -/
theorem setAll_ofList (pairs sets : List (String × String)) :
    (ofList pairs).setAll sets = ofList (pairs ++ sets) := by
  rw [ofList_eq_setAll, ofList_eq_setAll]
  exact List.foldl_append.symm

theorem get?_ofList_of_last {sets before after : List (String × String)} {key value : String}
    (h : sets = before ++ (key, value) :: after) (hlast : key ∉ after.map Prod.fst) :
    (ofList sets).get? key = some value := by
  rw [h, ← setAll_ofList, get?, pairs_setAll, Dictionary.setAll_cons,
    Dictionary.get?_setAll_of_notMem hlast]
  exact Dictionary.get?_set_self _ key value

theorem get?_eq_none_iff (p : Params) (key : String) : p.get? key = none ↔ key ∉ p.names := by
  rw [names, Dictionary.mem_keys_iff_isSome, get?, Option.not_isSome_iff_eq_none]

theorem mem_names_ofList {sets : List (String × String)} {key : String} :
    key ∈ (ofList sets).names ↔ key ∈ sets.map Prod.fst := Dictionary.mem_keys_ofList

theorem nodup_names_ofList (sets : List (String × String)) : (ofList sets).names.Nodup :=
  Dictionary.nodup_keys_ofList sets

theorem get?_set_comm (p : Params) {key key' : String} (h : key ≠ key') (value value' : String)
    (name : String) :
    ((p.set key value).set key' value').get? name =
      ((p.set key' value').set key value).get? name := by
  rw [get?_set, get?_set, get?_set, get?_set]
  by_cases hkey : key = name
  · have hkey' : key' ≠ name := fun heq => h (hkey.trans heq.symm)
    rw [if_pos hkey, if_neg hkey', if_pos hkey]
  · rw [if_neg hkey, if_neg hkey]

theorem asSet_ofList (pairs : List (String × String)) : (ofList pairs).AsSet pairs where
  nodup := nodup_names_ofList pairs
  mem _ := mem_names_ofList
  ordered := Dictionary.pairwise_idxOf_keys pairs
  size := Dictionary.size_ofList pairs
  last _ _ _ _ := get?_ofList_of_last
  absent key := by rw [get?_eq_none_iff, mem_names_ofList]
  replaced _ value hkey := Dictionary.entries_set_of_mem (nodup_names_ofList pairs) hkey value

/-- However names repeat among the pairs that are collected and those that are set after them, each
name stands once, in the order of first setting, with its last value. To collect pairs is to set
them one after another, and names that differ may be set in either order. -/
theorem names_as_first_set (pairs sets : List (String × String)) :
    ((ofList pairs).setAll sets).AsSet (pairs ++ sets) ∧
      ofList pairs = empty.setAll pairs ∧
      ∀ key key', key ≠ key' → ∀ value value' name,
        ((((ofList pairs).setAll sets).set key value).set key' value').get? name =
          ((((ofList pairs).setAll sets).set key' value').set key value).get? name := by
  refine ⟨?_, ofList_eq_setAll pairs, fun key key' hne value value' name => ?_⟩
  · rw [setAll_ofList]
    exact asSet_ofList (pairs ++ sets)
  · exact get?_set_comm _ hne value value' name

end MarketDesk.Http.Params

import MarketDesk.Dictionary
import Mathlib.Data.Finset.Card
import Mathlib.Data.List.Induction
import Mathlib.Data.List.Nodup

/-!
# Looking up in dictionaries

What a dictionary gives for a key after entries have been set one after another: the value that was
set last, or what stood there before. A dictionary that is missing and an empty one give the same.
Setting a key keeps the order of the keys and never lists one twice, so what a dictionary holds is
known from what was set: see `settled`. `Each` says so of a dictionary together with something that
holds of all its values, so that it can be said of nested ones.
-/

namespace MarketDesk.Dictionary

variable {α β : Type} [DecidableEq α]

theorem get?_getD_empty (d : Option (Dictionary α β)) (k : α) :
    (d.getD .empty).get? k = d.bind fun d => d.get? k := by
  cases d with
  | none => rfl
  | some d => rfl

theorem lookupIn_eq_lookup (k : α) (entries : List (α × β)) :
    lookupIn k entries = entries.lookup k := by
  induction entries with
  | nil => rfl
  | cons e rest ih =>
    rw [lookupIn, List.lookup_cons, ih]
    by_cases h : e.1 = k
    · simp [h]
    · have hkey : (k == e.1) = false := beq_false_of_ne (Ne.symm h)
      simp [h, hkey]

theorem get?_set_self (d : Dictionary α β) (k : α) (v : β) : (d.set k v).get? k = some v := by
  rw [get?_set, if_pos (Eq.refl k)]

theorem get?_set_of_ne (d : Dictionary α β) {k k' : α} (v : β) (h : k ≠ k') :
    (d.set k v).get? k' = d.get? k' := by
  rw [get?_set, if_neg h]

theorem setAll_cons (d : Dictionary α β) (e : α × β) (entries : List (α × β)) :
    d.setAll (e :: entries) = (d.set e.1 e.2).setAll entries := rfl

theorem setAll_append (d : Dictionary α β) (before after : List (α × β)) :
    d.setAll (before ++ after) = (d.setAll before).setAll after := List.foldl_append

theorem get?_setAll_of_notMem {d : Dictionary α β} {entries : List (α × β)} {k : α}
    (h : k ∉ entries.map Prod.fst) : (d.setAll entries).get? k = d.get? k := by
  induction entries generalizing d with
  | nil => rfl
  | cons e rest ih =>
    rw [List.map_cons, List.mem_cons, not_or] at h
    rw [setAll_cons, ih h.2, get?_set_of_ne d e.2 (Ne.symm h.1)]

/-- The last entry for a key counts. -/
theorem get?_setAll (d : Dictionary α β) (entries : List (α × β)) (k : α) :
    (d.setAll entries).get? k =
      ((entries.reverse.find? fun e => e.1 = k).map Prod.snd).or (d.get? k) := by
  induction entries generalizing d with
  | nil => rfl
  | cons e rest ih =>
    rw [setAll_cons, ih, get?_set, List.reverse_cons, List.find?_append]
    cases rest.reverse.find? fun e => e.1 = k with
    | some found => rfl
    | none => by_cases he : e.1 = k <;> simp [he]

theorem map_fst_setIn (k : α) (v : β) (entries : List (α × β)) :
    (setIn k v entries).map Prod.fst =
      if k ∈ entries.map Prod.fst then entries.map Prod.fst else entries.map Prod.fst ++ [k] := by
  induction entries with
  | nil => rfl
  | cons e rest ih =>
    obtain ⟨key, value⟩ := e
    rw [List.map_cons, setIn]
    by_cases hk : key = k
    · rw [if_pos hk, if_pos (List.mem_cons.mpr (Or.inl hk.symm)), List.map_cons]
    · rw [if_neg hk, List.map_cons, ih]
      simp only [List.mem_cons, Ne.symm hk, false_or]
      split <;> rfl

theorem keys_set (d : Dictionary α β) (k : α) (v : β) :
    (d.set k v).keys = if k ∈ d.keys then d.keys else d.keys ++ [k] :=
  map_fst_setIn k v d.entries

theorem mem_keys_set {d : Dictionary α β} {k k' : α} {v : β} :
    k' ∈ (d.set k v).keys ↔ k' = k ∨ k' ∈ d.keys := by
  rw [keys_set]
  split
  · next hk => exact ⟨Or.inr, fun h => h.elim (fun h => h ▸ hk) id⟩
  · rw [List.mem_append, List.mem_singleton, or_comm]

theorem nodup_keys_set {d : Dictionary α β} (h : d.keys.Nodup) (k : α) (v : β) :
    (d.set k v).keys.Nodup := by
  rw [keys_set]
  split
  · exact h
  · next hk =>
    refine List.nodup_append.mpr ⟨h, List.pairwise_singleton _ k, ?_⟩
    intro a ha b hb hab
    rw [List.mem_singleton] at hb
    exact hk (hb ▸ hab ▸ ha)

theorem nodup_keys_setAll {d : Dictionary α β} (h : d.keys.Nodup) (entries : List (α × β)) :
    (d.setAll entries).keys.Nodup := by
  induction entries generalizing d with
  | nil => exact h
  | cons e rest ih => exact ih (nodup_keys_set h e.1 e.2)

theorem mem_keys_iff_isSome (d : Dictionary α β) (k : α) : k ∈ d.keys ↔ (d.get? k).isSome := by
  have hlookup (entries : List (α × β)) :
      k ∈ entries.map Prod.fst ↔ (lookupIn k entries).isSome := by
    induction entries with
    | nil => simp [lookupIn]
    | cons e rest ih =>
      rw [List.map_cons, List.mem_cons, ih, lookupIn]
      by_cases hk : e.1 = k
      · simp [hk]
      · simp [hk, Ne.symm hk]
  exact hlookup d.entries

theorem mem_entries_of_get? {d : Dictionary α β} {k : α} {v : β} (h : d.get? k = some v) :
    (k, v) ∈ d.entries := by
  have hlookup (entries : List (α × β)) (h : lookupIn k entries = some v) : (k, v) ∈ entries := by
    induction entries with
    | nil => exact nomatch h
    | cons e rest ih =>
      rw [lookupIn] at h
      split at h
      · next hk => exact List.mem_cons.mpr (Or.inl (Prod.ext hk.symm (Option.some.inj h).symm))
      · exact List.mem_cons_of_mem e (ih h)
  exact hlookup d.entries h

/-- If no key comes twice, the entries are what looking up gives. -/
theorem mem_entries_iff {d : Dictionary α β} (hd : d.keys.Nodup) {k : α} {v : β} :
    (k, v) ∈ d.entries ↔ d.get? k = some v := by
  refine ⟨fun h => ?_, mem_entries_of_get?⟩
  have hkey : k ∈ d.keys := List.mem_map.mpr ⟨(k, v), h, rfl⟩
  obtain ⟨w, hw⟩ := Option.isSome_iff_exists.mp ((mem_keys_iff_isSome d k).mp hkey)
  have hsame : (k, w) = (k, v) :=
    List.inj_on_of_nodup_map hd (mem_entries_of_get? hw) h rfl
  rw [hw, (Prod.mk.inj hsame).2]

theorem mem_entries_set {d : Dictionary α β} {k : α} {v : β} {e : α × β}
    (h : e ∈ (d.set k v).entries) : e = (k, v) ∨ e ∈ d.entries := by
  have hset (entries : List (α × β)) (h : e ∈ setIn k v entries) : e = (k, v) ∨ e ∈ entries := by
    induction entries with
    | nil => exact Or.inl (List.mem_singleton.mp h)
    | cons f rest ih =>
      rw [setIn] at h
      split at h
      · next hk =>
        rcases List.mem_cons.mp h with rfl | h
        · exact Or.inl (by rw [hk])
        · exact Or.inr (List.mem_cons_of_mem f h)
      · rcases List.mem_cons.mp h with rfl | h
        · exact Or.inr List.mem_cons_self
        · exact (ih h).imp_right (List.mem_cons_of_mem f)
  exact hset d.entries h

/-- A value that replaces another takes its place, and all else stays where it is. -/
theorem entries_set_of_mem {d : Dictionary α β} (hd : d.keys.Nodup) {k : α} (h : k ∈ d.keys)
    (v : β) : (d.set k v).entries = d.entries.map fun e => if e.1 = k then (k, v) else e := by
  have hset (entries : List (α × β)) (hnodup : (entries.map Prod.fst).Nodup)
      (hk : k ∈ entries.map Prod.fst) :
      setIn k v entries = entries.map fun e => if e.1 = k then (k, v) else e := by
    induction entries with
    | nil => exact absurd hk List.not_mem_nil
    | cons e rest ih =>
      obtain ⟨key, value⟩ := e
      rw [List.map_cons, List.nodup_cons] at hnodup
      rw [List.map_cons, setIn]
      by_cases hkey : key = k
      · subst hkey
        have hrest : ∀ e ∈ rest, (if e.1 = key then (key, v) else e) = e := by
          intro e he
          apply if_neg
          rintro rfl
          exact hnodup.1 (List.mem_map.mpr ⟨e, he, rfl⟩)
        rw [if_pos rfl, if_pos rfl, List.map_congr_left hrest, List.map_id']
      · rw [if_neg hkey, if_neg hkey, ih hnodup.2]
        exact (List.mem_cons.mp hk).resolve_left (Ne.symm hkey)
  exact hset d.entries hd h

/-- What is left of entries that were set one after another: each key where it was set first, with
the value that it was set to last. -/
def settled (sets : List (α × β)) : List (α × β) :=
  (sets.map Prod.fst).eraseDups.filterMap fun key => sets.reverse.find? fun e => e.1 = key

theorem ofList_concat (sets : List (α × β)) (e : α × β) :
    ofList (sets ++ [e]) = (ofList sets).set e.1 e.2 := List.foldl_append

theorem keys_ofList (sets : List (α × β)) :
    (ofList sets).keys = (sets.map Prod.fst).eraseDups := by
  induction sets using List.reverseRecOn with
  | nil => rfl
  | append_singleton sets e ih =>
    rw [ofList_concat, keys_set, ih, List.map_append, List.eraseDups_append, List.map_singleton]
    by_cases hkey : e.1 ∈ sets.map Prod.fst
    · rw [if_pos (List.mem_eraseDups.mpr hkey)]
      simp [List.removeAll, hkey]
    · rw [if_neg (mt List.mem_eraseDups.mp hkey)]
      simp [List.removeAll, hkey, List.eraseDups_cons]

theorem get?_ofList_eq_some_iff {sets : List (α × β)} {k : α} {v : β} :
    (ofList sets).get? k = some v ↔
      ∃ before after, sets = before ++ (k, v) :: after ∧ k ∉ after.map Prod.fst := by
  constructor
  · intro h
    induction sets using List.reverseRecOn with
    | nil => exact nomatch h
    | append_singleton sets e ih =>
      rw [ofList_concat, get?_set] at h
      split at h
      · next hkey =>
        obtain rfl : (k, v) = e := Prod.ext hkey.symm (Option.some.inj h).symm
        exact ⟨sets, [], rfl, List.not_mem_nil⟩
      · next hkey =>
        obtain ⟨before, after, rfl, hafter⟩ := ih h
        refine ⟨before, after ++ [e], by rw [List.append_assoc, List.cons_append], ?_⟩
        rw [List.map_append, List.mem_append, List.map_singleton, List.mem_singleton, not_or]
        exact ⟨hafter, Ne.symm hkey⟩
  · rintro ⟨before, after, rfl, hafter⟩
    rw [ofList, setAll_append, setAll_cons, get?_setAll_of_notMem hafter, get?_set_self]

theorem nodup_keys_ofList (sets : List (α × β)) : (ofList sets).keys.Nodup :=
  nodup_keys_setAll (d := empty) List.nodup_nil sets

theorem mem_keys_ofList {sets : List (α × β)} {k : α} :
    k ∈ (ofList sets).keys ↔ k ∈ sets.map Prod.fst := by
  rw [keys_ofList, List.mem_eraseDups]

theorem size_ofList (sets : List (α × β)) :
    (ofList sets).size = (sets.map Prod.fst).toFinset.card := by
  have hkeys : (ofList sets).keys.toFinset = (sets.map Prod.fst).toFinset := by
    ext key
    rw [List.mem_toFinset, List.mem_toFinset, mem_keys_ofList]
  rw [← hkeys, List.toFinset_card_of_nodup (nodup_keys_ofList sets)]
  exact (List.length_map Prod.fst).symm

/-- The keys stand in the order in which each was first set. -/
theorem pairwise_idxOf_keys (sets : List (α × β)) :
    (ofList sets).keys.Pairwise fun a b =>
      (sets.map Prod.fst).idxOf a < (sets.map Prod.fst).idxOf b := by
  induction sets using List.reverseRecOn with
  | nil => exact List.Pairwise.nil
  | append_singleton sets e ih =>
    have hidx {k : α} (hk : k ∈ (ofList sets).keys) :
        ((sets ++ [e]).map Prod.fst).idxOf k = (sets.map Prod.fst).idxOf k := by
      rw [List.map_append, List.idxOf_append_of_mem (mem_keys_ofList.mp hk)]
    have hold : (ofList sets).keys.Pairwise fun a b =>
        ((sets ++ [e]).map Prod.fst).idxOf a < ((sets ++ [e]).map Prod.fst).idxOf b := by
      apply ih.imp_of_mem
      intro a b ha hb hab
      rwa [hidx ha, hidx hb]
    rw [ofList_concat, keys_set]
    by_cases hkey : e.1 ∈ (ofList sets).keys
    · rw [if_pos hkey]
      exact hold
    · rw [if_neg hkey, List.pairwise_append]
      refine ⟨hold, List.pairwise_singleton _ _, ?_⟩
      intro a ha b hb
      obtain rfl := List.mem_singleton.mp hb
      have hlast : ((sets ++ [e]).map Prod.fst).idxOf e.1 = (sets.map Prod.fst).length := by
        rw [List.map_append, List.idxOf_append_of_notMem (mt mem_keys_ofList.mpr hkey)]
        simp
      rw [hidx ha, hlast]
      exact List.idxOf_lt_length_of_mem (mem_keys_ofList.mp ha)

/-- A dictionary is its keys with what stands under them. -/
theorem entries_eq_filterMap {d : Dictionary α β} (hd : d.keys.Nodup) :
    d.entries = d.keys.filterMap fun key => (d.get? key).map fun value => (key, value) := by
  rw [keys, List.filterMap_map]
  refine List.filterMap_some.symm.trans (List.filterMap_congr fun e he => ?_)
  have hget : d.get? e.1 = some e.2 := (mem_entries_iff hd).mp he
  rw [Function.comp_apply, hget]
  rfl

theorem entries_ofList (sets : List (α × β)) : (ofList sets).entries = settled sets := by
  rw [entries_eq_filterMap (nodup_keys_ofList sets), keys_ofList, settled]
  refine List.filterMap_congr fun key _ => ?_
  rw [ofList, get?_setAll, get?_empty, Option.or_none]
  cases hfind : sets.reverse.find? fun e => e.1 = key with
  | none => rfl
  | some e =>
    have hkey : e.1 = key := by simpa using List.find?_some hfind
    exact congrArg (fun key => some (key, e.2)) hkey.symm

example : settled [("symbol", "BTCUSDT"), ("limit", "5"), ("symbol", "ETHBTC")] =
    [("symbol", "ETHBTC"), ("limit", "5")] := by decide

/-- A dictionary that lists no key twice, and only values of some kind. -/
structure Each (P : β → Prop) (d : Dictionary α β) : Prop where
  nodup : d.keys.Nodup
  values : ∀ e ∈ d.entries, P e.2

namespace Each

variable {P : β → Prop} {d : Dictionary α β}

omit [DecidableEq α] in
theorem empty : (Dictionary.empty : Dictionary α β).Each P :=
  ⟨List.nodup_nil, fun _ he => nomatch he⟩

theorem of_get? (h : d.Each P) {k : α} {v : β} (hv : d.get? k = some v) : P v :=
  h.values (k, v) (mem_entries_of_get? hv)

theorem set (h : d.Each P) (k : α) {v : β} (hv : P v) : (d.set k v).Each P where
  nodup := nodup_keys_set h.nodup k v
  values e he := (mem_entries_set he).elim (fun hnew => hnew ▸ hv) (h.values e)

theorem update (h : d.Each P) (k : α) {f : Option β → β} (hnone : P (f none))
    (hsome : ∀ v, P v → P (f (some v))) : (d.update k f).Each P := by
  refine h.set k ?_
  cases hget : d.get? k with
  | none => exact hnone
  | some v => exact hsome v (h.of_get? hget)

end Each

end MarketDesk.Dictionary

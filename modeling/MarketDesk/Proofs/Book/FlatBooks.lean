import MarketDesk.Book.Store
import MarketDesk.Proofs.Dictionary

/-!
# The order book store as one flat map

The store keeps its books in three levels of dictionaries that grow as books arrive. `Refines` says
how it shows the same as one dictionary under keys of a canonical pair and a type of book: a book is
where the flat dictionary has it, and a level is there exactly if some book below it is. Every
upsert keeps this relation, so the answers of a store can be read off the upserts that led to it.
-/

namespace MarketDesk

/-- A snapshot for the store, and the time at which the store takes it. -/
structure Upsert where
  pair : CurrencyPair
  bookType : String
  snapshot : Snapshot
  now : Instant

namespace Upsert

def key (u : Upsert) : CurrencyPair := u.pair.canonical

def entry (u : Upsert) : Snapshot := ⟨u.key, u.snapshot.bids, u.snapshot.asks, u.now⟩

end Upsert

abbrev FlatBooks := Dictionary (CurrencyPair × String) Snapshot

def FlatBooks.upsertAll (f : FlatBooks) (us : List Upsert) : FlatBooks :=
  f.setAll (us.map fun u => ((u.key, u.bookType), u.entry))

namespace BookStore

def upsertAll (s : BookStore) (us : List Upsert) : BookStore :=
  us.foldl (fun s u => s.upsert u.pair u.bookType u.snapshot u.now) s

def ofUpserts (us : List Upsert) : BookStore := empty.upsertAll us

def book? (s : BookStore) (key : CurrencyPair) (bookType : String) : Option Snapshot :=
  (s.byType? key.base key.quote).bind fun books => books.get? bookType

theorem byQuote?_upsert (s : BookStore) (u : Upsert) (base : String) :
    (s.upsert u.pair u.bookType u.snapshot u.now).byQuote? base =
      if u.key.base = base then
        some (((s.byQuote? base).getD .empty).update u.key.quote fun byType =>
          (byType.getD .empty).set u.bookType u.entry)
      else s.byQuote? base := by
  change (s.books.update u.key.base _).get? base = _
  rw [Dictionary.get?_update]
  by_cases hb : u.key.base = base
  · rw [if_pos hb, if_pos hb, hb]
    rfl
  · rw [if_neg hb, if_neg hb]
    rfl

theorem byType?_upsert (s : BookStore) (u : Upsert) (key : CurrencyPair) :
    (s.upsert u.pair u.bookType u.snapshot u.now).byType? key.base key.quote =
      if u.key = key then
        some (((s.byType? key.base key.quote).getD .empty).set u.bookType u.entry)
      else s.byType? key.base key.quote := by
  unfold byType?
  rw [byQuote?_upsert]
  by_cases hb : u.key.base = key.base
  · simp only [if_pos hb, Option.bind_some, Dictionary.get?_update, Dictionary.get?_getD_empty]
    by_cases hq : u.key.quote = key.quote
    · rw [if_pos hq, if_pos (CurrencyPair.ext hb hq), hq]
    · rw [if_neg hq, if_neg fun hk => hq (congrArg CurrencyPair.quote hk)]
  · rw [if_neg hb, if_neg fun hk => hb (congrArg CurrencyPair.base hk)]

theorem book?_upsert (s : BookStore) (u : Upsert) (key : CurrencyPair) (bookType : String) :
    (s.upsert u.pair u.bookType u.snapshot u.now).book? key bookType =
      if u.key = key ∧ u.bookType = bookType then some u.entry else s.book? key bookType := by
  unfold book?
  rw [byType?_upsert]
  by_cases hk : u.key = key
  · simp only [hk, if_true, true_and, Option.bind_some, Dictionary.get?_set,
      Dictionary.get?_getD_empty]
  · simp only [hk, if_false, false_and]

/-- What a store gives depends on which levels are there and on the book at the last of them. -/
theorem get_eq (s : BookStore) (pair : CurrencyPair) (bookType : String) :
    s.get pair bookType =
      if (s.byQuote? pair.canonical.base).isSome then
        if (s.byType? pair.canonical.base pair.canonical.quote).isSome then
          .ok ((s.book? pair.canonical bookType).getD (.empty pair.canonical))
        else .error (.secondaryNotFound pair.canonical.base pair.canonical.quote)
      else .error (.primaryNotFound pair.canonical.base) := by
  cases hb : s.byQuote? pair.canonical.base with
  | none => simp [get, hb]
  | some byQuote =>
    cases hq : byQuote.get? pair.canonical.quote with
    | none => simp [get, byType?, hb, hq]
    | some byType => simp [get, book?, byType?, hb, hq]

theorem get_of_book? {s : BookStore} {pair : CurrencyPair} {bookType : String} {book : Snapshot}
    (h : s.book? pair.canonical bookType = some book) : s.get pair bookType = .ok book := by
  have htype : (s.byType? pair.canonical.base pair.canonical.quote).isSome := by
    obtain ⟨byType, htype, -⟩ := Option.bind_eq_some_iff.mp h
    exact Option.isSome_of_eq_some htype
  have hquote : (s.byQuote? pair.canonical.base).isSome := by
    obtain ⟨_, htype⟩ := Option.isSome_iff_exists.mp htype
    obtain ⟨byQuote, hquote, -⟩ := Option.bind_eq_some_iff.mp htype
    exact Option.isSome_of_eq_some hquote
  rw [get_eq, if_pos hquote, if_pos htype, h]
  rfl

end BookStore

/-- The levels of a store and the entries of a flat dictionary tell the same. -/
structure Refines (s : BookStore) (f : FlatBooks) : Prop where
  book : ∀ key bookType, s.book? key bookType = f.get? (key, bookType)
  pair : ∀ key, (s.byType? key.base key.quote).isSome ↔ ∃ bookType, (f.get? (key, bookType)).isSome
  base : ∀ base, (s.byQuote? base).isSome ↔
    ∃ key bookType, (f.get? (key, bookType)).isSome ∧ key.base = base

namespace Refines

theorem empty : Refines .empty .empty where
  book _ _ := rfl
  pair key := by
    have hnone : BookStore.empty.byType? key.base key.quote = none := rfl
    simp only [hnone, Dictionary.get?_empty, Option.isSome_none, Bool.false_eq_true, exists_false]
  base base := by
    have hnone : BookStore.empty.byQuote? base = none := rfl
    simp only [hnone, Dictionary.get?_empty, Option.isSome_none, Bool.false_eq_true, false_and,
      exists_false]

theorem upsert {s : BookStore} {f : FlatBooks} (h : Refines s f) (u : Upsert) :
    Refines (s.upsert u.pair u.bookType u.snapshot u.now)
      (f.set (u.key, u.bookType) u.entry) where
  book key bookType := by
    simp only [BookStore.book?_upsert, Dictionary.get?_set, Prod.mk.injEq, h.book]
  pair key := by
    rw [BookStore.byType?_upsert]
    by_cases hk : u.key = key
    · rw [if_pos hk, ← hk]
      exact ⟨fun _ => ⟨u.bookType, by rw [Dictionary.get?_set_self]; rfl⟩, fun _ => rfl⟩
    · have hne (bookType : String) : (f.set (u.key, u.bookType) u.entry).get? (key, bookType) =
          f.get? (key, bookType) :=
        f.get?_set_of_ne u.entry fun h => hk (congrArg Prod.fst h)
      simp only [if_neg hk, hne, h.pair]
  base base := by
    rw [BookStore.byQuote?_upsert]
    by_cases hb : u.key.base = base
    · rw [if_pos hb]
      exact ⟨fun _ => ⟨u.key, u.bookType, by rw [Dictionary.get?_set_self]; rfl, hb⟩, fun _ => rfl⟩
    · rw [if_neg hb, h.base]
      have hne (key : CurrencyPair) (hkey : key.base = base) (bookType : String) :
          (f.set (u.key, u.bookType) u.entry).get? (key, bookType) = f.get? (key, bookType) :=
        f.get?_set_of_ne u.entry fun h => hb ((congrArg (·.1.base) h).trans hkey)
      constructor
      · rintro ⟨key, bookType, hf, hkey⟩
        exact ⟨key, bookType, by rwa [hne key hkey], hkey⟩
      · rintro ⟨key, bookType, hf, hkey⟩
        exact ⟨key, bookType, by rwa [hne key hkey] at hf, hkey⟩

theorem upsertAll {s : BookStore} {f : FlatBooks} (h : Refines s f) (us : List Upsert) :
    Refines (s.upsertAll us) (f.upsertAll us) := by
  induction us generalizing s f with
  | nil => exact h
  | cons u us ih => exact ih (h.upsert u)

end Refines

theorem FlatBooks.get?_upsertAll (us : List Upsert) (key : CurrencyPair) (bookType : String) :
    (FlatBooks.upsertAll .empty us).get? (key, bookType) =
      (us.reverse.find? fun u => u.key = key ∧ u.bookType = bookType).map Upsert.entry := by
  unfold upsertAll
  rw [Dictionary.get?_setAll, Dictionary.get?_empty, Option.or_none, ← List.map_reverse,
    List.find?_map, Option.map_map]
  simp only [Function.comp_def, Prod.mk.injEq]

namespace BookStore

theorem refines_ofUpserts (us : List Upsert) :
    Refines (ofUpserts us) (FlatBooks.upsertAll .empty us) :=
  Refines.empty.upsertAll us

theorem isSome_book?_ofUpserts (us : List Upsert) (key : CurrencyPair) (bookType : String) :
    ((FlatBooks.upsertAll .empty us).get? (key, bookType)).isSome ↔
      ∃ u ∈ us, u.key = key ∧ u.bookType = bookType := by
  rw [FlatBooks.get?_upsertAll, Option.isSome_map, List.find?_isSome]
  simp only [List.mem_reverse, decide_eq_true_eq]

theorem isSome_byType?_ofUpserts (us : List Upsert) (key : CurrencyPair) :
    ((ofUpserts us).byType? key.base key.quote).isSome ↔ ∃ u ∈ us, u.key = key := by
  simp only [(refines_ofUpserts us).pair, isSome_book?_ofUpserts]
  constructor
  · rintro ⟨_, u, hu, hk, -⟩
    exact ⟨u, hu, hk⟩
  · rintro ⟨u, hu, hk⟩
    exact ⟨u.bookType, u, hu, hk, rfl⟩

theorem isSome_byQuote?_ofUpserts (us : List Upsert) (base : String) :
    ((ofUpserts us).byQuote? base).isSome ↔ ∃ u ∈ us, u.key.base = base := by
  simp only [(refines_ofUpserts us).base, isSome_book?_ofUpserts]
  constructor
  · rintro ⟨_, _, ⟨u, hu, rfl, -⟩, hb⟩
    exact ⟨u, hu, hb⟩
  · rintro ⟨u, hu, hb⟩
    exact ⟨u.key, u.bookType, ⟨u, hu, rfl, rfl⟩, hb⟩

theorem book?_ofUpserts_getD (us : List Upsert) (key : CurrencyPair) (bookType : String) :
    ((ofUpserts us).book? key bookType).getD (.empty key) =
      match us.reverse.find? fun u => u.key = key ∧ u.bookType = bookType with
      | some u => ⟨key, u.snapshot.bids, u.snapshot.asks, u.now⟩
      | none => ⟨key, [], [], .epoch⟩ := by
  rw [(refines_ofUpserts us).book, FlatBooks.get?_upsertAll]
  cases hl : us.reverse.find? fun u => u.key = key ∧ u.bookType = bookType with
  | none => rfl
  | some u =>
    have hu := List.find?_some hl
    obtain ⟨rfl, -⟩ := of_decide_eq_true hu
    rfl

/-- After any upserts the store answers as the history of them tells. For a pair it gives an error
that names the first level which no upsert reached, an empty book of the epoch if none had the type,
and else the levels of the last one under the canonical pair and the time of that upsert. -/
theorem answers_ofUpserts (us : List Upsert) (pair : CurrencyPair) (bookType : String) :
    Refines (ofUpserts us) (.upsertAll .empty us) ∧
      (ofUpserts us).get pair bookType =
        (if ∃ u ∈ us, u.key.base = pair.canonical.base then
          if ∃ u ∈ us, u.key = pair.canonical then
            .ok (match us.reverse.find? fun u => u.key = pair.canonical ∧ u.bookType = bookType with
              | some u => ⟨pair.canonical, u.snapshot.bids, u.snapshot.asks, u.now⟩
              | none => ⟨pair.canonical, [], [], .epoch⟩)
          else .error (.secondaryNotFound pair.canonical.base pair.canonical.quote)
        else .error (.primaryNotFound pair.canonical.base)) ∧
      (∀ base, (ofUpserts us).hasBase base = true ↔
        ∃ u ∈ us, u.key.base = canonicalCurrency base) ∧
      ((ofUpserts us).hasPair pair = true ↔ ∃ u ∈ us, u.key = pair.canonical) := by
  refine ⟨refines_ofUpserts us, ?_, fun base => isSome_byQuote?_ofUpserts us _,
    isSome_byType?_ofUpserts us _⟩
  rw [get_eq, book?_ofUpserts_getD]
  simp only [isSome_byQuote?_ofUpserts, isSome_byType?_ofUpserts]

end BookStore

end MarketDesk

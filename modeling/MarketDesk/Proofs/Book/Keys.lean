import MarketDesk.Proofs.Book.FlatBooks
import MarketDesk.Proofs.Currency.Symbols

/-!
# The keys of a store

No level of a store lists a key twice, and each book stands under a canonical pair, which is found
under itself. So the keys of a store are the keys of its books, each of them once, and what they
lead back to is the book that stands there.
-/

namespace MarketDesk.BookStore

/-- No level of a store lists a key twice. -/
def Distinct (s : BookStore) : Prop :=
  s.books.Each fun byQuote => byQuote.Each fun byType => byType.Each fun _ => True

theorem distinct_empty : empty.Distinct := Dictionary.Each.empty

theorem Distinct.upsert {s : BookStore} (h : s.Distinct) (u : Upsert) :
    (s.upsert u.pair u.bookType u.snapshot u.now).Distinct := by
  unfold Distinct at h ⊢
  dsimp only [BookStore.upsert]
  refine h.update _ ?_ fun byQuote hquote => ?_
  · exact Dictionary.Each.empty.update _ (Dictionary.Each.empty.set _ trivial) fun byType htype =>
      htype.set _ trivial
  · exact hquote.update _ (Dictionary.Each.empty.set _ trivial) fun byType htype =>
      htype.set _ trivial

theorem Distinct.upsertAll {s : BookStore} (h : s.Distinct) (us : List Upsert) :
    (s.upsertAll us).Distinct := by
  induction us generalizing s with
  | nil => exact h
  | cons u rest ih => exact ih (h.upsert u)

theorem mem_keys_iff {s : BookStore} (h : s.Distinct) (key : CurrencyPair) (bookType : String) :
    (key, bookType) ∈ s.keys ↔ (s.book? key bookType).isSome := by
  have hbook : (s.book? key bookType).isSome ↔ ∃ byQuote, s.books.get? key.base = some byQuote ∧
      ∃ byType, byQuote.get? key.quote = some byType ∧ (byType.get? bookType).isSome := by
    simp only [book?, byType?, byQuote?, Option.isSome_iff_exists, Option.bind_eq_some_iff]
    grind
  simp only [hbook, keys, List.mem_flatMap, List.mem_map, Prod.exists, Prod.mk.injEq]
  constructor
  · rintro ⟨base, byQuote, hquote, quote, byType, htype, bookType, hbookType, rfl, rfl⟩
    refine ⟨byQuote, (Dictionary.mem_entries_iff h.nodup).mp hquote, byType, ?_, ?_⟩
    · exact (Dictionary.mem_entries_iff (h.values _ hquote).nodup).mp htype
    · exact (Dictionary.mem_keys_iff_isSome byType bookType).mp hbookType
  · rintro ⟨byQuote, hquote, byType, htype, hbookType⟩
    exact ⟨key.base, byQuote, Dictionary.mem_entries_of_get? hquote, key.quote, byType,
      Dictionary.mem_entries_of_get? htype, bookType,
      (Dictionary.mem_keys_iff_isSome byType bookType).mpr hbookType, rfl, rfl⟩

theorem Distinct.nodup_keys {s : BookStore} (h : s.Distinct) : s.keys.Nodup := by
  have hpairwise {α β : Type} {d : Dictionary α β} (hd : d.keys.Nodup) :
      d.entries.Pairwise fun e f => e.1 ≠ f.1 := List.pairwise_map.mp hd
  unfold keys
  refine List.nodup_flatMap.mpr ⟨fun e he => List.nodup_flatMap.mpr ⟨fun f hf => ?_, ?_⟩, ?_⟩
  · have htypes := ((h.values e he).values f hf).nodup
    exact htypes.map fun x y hxy => congrArg Prod.snd hxy
  · refine (hpairwise (h.values e he).nodup).imp fun hne k hk hk' => ?_
    obtain ⟨_, -, rfl⟩ := List.mem_map.mp hk
    obtain ⟨_, -, hsame⟩ := List.mem_map.mp hk'
    exact hne (congrArg (·.1.quote) hsame).symm
  · refine (hpairwise h.nodup).imp fun hne k hk hk' => ?_
    obtain ⟨_, -, hk⟩ := List.mem_flatMap.mp hk
    obtain ⟨_, -, hk'⟩ := List.mem_flatMap.mp hk'
    obtain ⟨_, -, rfl⟩ := List.mem_map.mp hk
    obtain ⟨_, -, hsame⟩ := List.mem_map.mp hk'
    exact hne (congrArg (·.1.base) hsame).symm

theorem distinct_ofUpserts (us : List Upsert) : (ofUpserts us).Distinct :=
  distinct_empty.upsertAll us

theorem mem_keys_ofUpserts (us : List Upsert) (key : CurrencyPair) (bookType : String) :
    (key, bookType) ∈ (ofUpserts us).keys ↔ ∃ u ∈ us, u.key = key ∧ u.bookType = bookType := by
  rw [mem_keys_iff (distinct_ofUpserts us), (refines_ofUpserts us).book, isSome_book?_ofUpserts]

/-- The keys of a store are those under which books were put, each of them once. Each is a pair of
two symbols in canonical form, and gives back the book that was put there last. A base currency is
known, and a pair is, just if some key has it. -/
theorem keys_lead_back (us : List Upsert) (hpairs : ∀ u ∈ us, u.pair.Obtained) :
    let store := ofUpserts us
    store.keys.Nodup ∧
      (∀ key bookType, (key, bookType) ∈ store.keys ↔
        ∃ u ∈ us, u.key = key ∧ u.bookType = bookType) ∧
      (∀ key bookType, (key, bookType) ∈ store.keys →
        IsSymbol key.base ∧ IsSymbol key.quote ∧ key.canonical = key ∧
          ∃ u, (us.reverse.find? fun u => u.key = key ∧ u.bookType = bookType) = some u ∧
            store.book? key bookType = some u.entry ∧
            store.get key bookType = .ok u.entry) ∧
      (∀ base, store.hasBase base = true ↔
        ∃ key bookType, (key, bookType) ∈ store.keys ∧ key.base = canonicalCurrency base) ∧
      ∀ pair, store.hasPair pair = true ↔ ∃ bookType, (pair.canonical, bookType) ∈ store.keys := by
  intro store
  refine ⟨(distinct_ofUpserts us).nodup_keys, mem_keys_ofUpserts us, ?_, ?_, ?_⟩
  · intro key bookType hmem
    obtain ⟨u, hu, rfl, -⟩ := (mem_keys_ofUpserts us key bookType).mp hmem
    have hsymbols := (hpairs u hu).hasSymbols.canonical
    have hkey : u.key.canonical = u.key := CurrencyPair.canonical_canonical u.pair
    obtain ⟨snapshot, hbook⟩ := Option.isSome_iff_exists.mp
      ((mem_keys_iff (distinct_ofUpserts us) u.key bookType).mp hmem)
    have hlast := hbook
    rw [(refines_ofUpserts us).book, FlatBooks.get?_upsertAll, Option.map_eq_some_iff] at hlast
    obtain ⟨last, hfind, rfl⟩ := hlast
    have hget : store.get u.key bookType = .ok last.entry :=
      get_of_book? ((congrArg (store.book? · bookType) hkey).trans hbook)
    exact ⟨hsymbols.base, hsymbols.quote, hkey, last, hfind, hbook, hget⟩
  · intro base
    have hbase : store.hasBase base = true ↔ ∃ u ∈ us, u.key.base = canonicalCurrency base :=
      isSome_byQuote?_ofUpserts us _
    rw [hbase]
    simp only [store, mem_keys_ofUpserts]
    constructor
    · rintro ⟨u, hu, hb⟩
      exact ⟨u.key, u.bookType, ⟨u, hu, rfl, rfl⟩, hb⟩
    · rintro ⟨_, _, ⟨u, hu, rfl, -⟩, hb⟩
      exact ⟨u, hu, hb⟩
  · intro pair
    have hpair : store.hasPair pair = true ↔ ∃ u ∈ us, u.key = pair.canonical :=
      isSome_byType?_ofUpserts us _
    rw [hpair]
    simp only [store, mem_keys_ofUpserts]
    constructor
    · rintro ⟨u, hu, hk⟩
      exact ⟨u.bookType, u, hu, hk, rfl⟩
    · rintro ⟨_, u, hu, hk, -⟩
      exact ⟨u, hu, hk⟩

/-- A pair in capital letters that ends with a sigma, and a dotted capital I. -/
theorem keys_lead_back_sigma :
    let pair : CurrencyPair := ⟨"\u0391\u03A3", "\u0130"⟩
    let us : List Upsert := [⟨pair, spot, .empty pair, .epoch⟩]
    let key : CurrencyPair := ⟨"\u03B1\u03C2", "i\u0307"⟩
    (∀ u ∈ us, u.pair.Obtained) ∧ (key, spot) ∈ (ofUpserts us).keys ∧
      key.canonical = key ∧ (ofUpserts us).get key spot = .ok (.empty key) := by
  intro pair us key
  have hpairs : ∀ u ∈ us, u.pair.Obtained := by
    have hpair : CurrencyPair.ofSymbols "\u0391\u03A3 " "\u0130" = .ok pair := by decide +kernel
    intro u hu
    rw [List.mem_singleton.mp hu]
    exact .symbols hpair
  have hmem : (key, spot) ∈ (ofUpserts us).keys := by decide +kernel
  obtain ⟨-, -, hlead, -⟩ := keys_lead_back us hpairs
  obtain ⟨-, -, hkey, u, hfind, -, hget⟩ := hlead key spot hmem
  have hentry : u.entry = .empty key := by
    have hu := List.mem_of_find?_eq_some hfind
    rw [List.mem_singleton.mp (List.mem_reverse.mp hu)]
    decide +kernel
  exact ⟨hpairs, hmem, hkey, hentry ▸ hget⟩

end MarketDesk.BookStore

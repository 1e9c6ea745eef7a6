import MarketDesk.Proofs.Currency.Spelling
import MarketDesk.Proofs.Venue.Ingestion

/-!
# Spellings of a pair, up to the venue

Two spellings of a pair give pairs of the same letters. The store and the venue see a pair in
canonical form or in capital letters, and both are the same for pairs of the same letters. So
wherever a pair goes, its spelling does not show.
-/

namespace MarketDesk

namespace CurrencyPair.SameLetters

variable {p q : CurrencyPair} (h : p.SameLetters q)
include h

theorem symbol_eq : Client.symbolOfPair p = Client.symbolOfPair q := h.format_eq ""

theorem get_eq (store : BookStore) (bookType : String) :
    store.get p bookType = store.get q bookType := by
  rw [BookStore.get, BookStore.get, h.canonical_eq]

theorem hasPair_eq (store : BookStore) : store.hasPair p = store.hasPair q := by
  rw [BookStore.hasPair, BookStore.hasPair, h.canonical_eq]

theorem hasBase_eq (store : BookStore) : store.hasBase p.base = store.hasBase q.base := by
  rw [BookStore.hasBase, BookStore.hasBase, canonicalCurrency_of_map_toLower_eq h.base]

theorem upsert_eq (store : BookStore) (bookType : String) (snapshot : Snapshot) (now : Instant) :
    store.upsert p bookType snapshot now = store.upsert q bookType snapshot now := by
  rw [BookStore.upsert, BookStore.upsert, h.canonical_eq]

theorem depthRequest_eq (s : Session) (limit : Option UInt32) (clock : Clock) :
    s.depthRequest p limit clock = s.depthRequest q limit clock := by
  rw [Session.depthRequest, Session.depthRequest, h.symbol_eq]

/-- The books that are read differ in the pair that was asked for, and what is stored does not. -/
theorem updateBook_eq (s : Session) (limit : Option UInt32) (clock : Clock) :
    s.updateBook p limit clock = s.updateBook q limit clock := by
  have hread : Session.readBook q clock s.nextReply =
      (Session.readBook p clock s.nextReply).map fun book => { book with pair := q } := by
    unfold Session.readBook
    cases Session.readReply Depth.decode s.nextReply with
    | ok depth =>
      rw [Outcome.bind, Outcome.bind, depth.toSnapshot_pair p q]
      cases depth.toSnapshot p clock.arrival <;> rfl
    | error e => rfl
    | cancelled => rfl
  rw [Session.updateBook_eq, Session.updateBook_eq, h.depthRequest_eq, Operation.books,
    Operation.books, hread]
  cases Session.readBook p clock s.nextReply with
  | ok book =>
    dsimp only [Outcome.map, Outcome.bind]
    rw [h.upsert_eq, Session.storedBook, h.canonical_eq]
    rfl
  | error e => rfl
  | cancelled => rfl

end CurrencyPair.SameLetters

namespace CurrencyPair

/-- Every spelling of a text that is a pair is a pair, with the same canonical form and the same
symbol at the venue. No store tells the two apart: they are known to it together, lead to the same
book and put a book in the same place, and so do the texts of their bases. An update sends the same
request for both. -/
theorem respelled_alike (s t : String) (p : CurrencyPair) (hs : parse s = .ok p)
    (h : Respelled s t) :
    ∃ q, parse t = .ok q ∧ q.canonical = p.canonical ∧
      Client.symbolOfPair q = Client.symbolOfPair p ∧
      (∀ store : BookStore, store.hasPair q = store.hasPair p ∧
        store.hasBase q.base = store.hasBase p.base ∧
        store.hasBase (baseText t) = store.hasBase (baseText s) ∧
        ∀ bookType, store.get q bookType = store.get p bookType ∧
          ∀ snapshot now,
            store.upsert q bookType snapshot now = store.upsert p bookType snapshot now ∧
            (store.upsert p bookType snapshot now).get q bookType =
              .ok ⟨p.canonical, snapshot.bids, snapshot.asks, now⟩) ∧
      ∀ (session : Session) limit clock,
        (session.updateBook q limit clock).2.requests =
            (session.updateBook p limit clock).2.requests ∧
          (session.updateBook p limit clock).2.requests =
            session.requests ++ [session.depthRequest p limit clock] ∧
          session.updateBook q limit clock = session.updateBook p limit clock := by
  obtain ⟨q, ht, hpq⟩ := parse_of_spelling_eq h.spelling_eq hs
  have hbase (store : BookStore) : store.hasBase (baseText t) = store.hasBase (baseText s) := by
    rw [BookStore.hasBase, BookStore.hasBase, canonicalCurrency_baseText ht,
      canonicalCurrency_baseText hs, canonicalCurrency_of_map_toLower_eq hpq.base]
  refine ⟨q, ht, hpq.canonical_eq.symm, hpq.symbol_eq.symm, fun store => ?_, ?_⟩
  · refine ⟨(hpq.hasPair_eq store).symm, (hpq.hasBase_eq store).symm, hbase store, ?_⟩
    refine fun bookType => ⟨(hpq.get_eq store bookType).symm, fun snapshot now => ?_⟩
    refine ⟨(hpq.upsert_eq store bookType snapshot now).symm, ?_⟩
    rw [← hpq.get_eq]
    exact store.get_upsert_self ⟨p, bookType, snapshot, now⟩
  · intro session limit clock
    rw [← hpq.updateBook_eq]
    exact ⟨rfl, session.updateBook_requests p limit clock, rfl⟩

/-- A change of case, another delimiter, a blank less and a blank more, around a capital sigma that
ends a word. -/
theorem respelled_alike_sigma :
    let s := "aΣ/ İ"
    let t := " AΣ-İ"
    let p : CurrencyPair := ⟨"aΣ", "İ"⟩
    parse s = .ok p ∧ Respelled s t ∧
      ∃ q, parse t = .ok q ∧ q.canonical = p.canonical ∧
        Client.symbolOfPair q = Client.symbolOfPair p := by
  intro s t p
  have hs : parse s = .ok p := by decide +kernel
  have hrespelled : Respelled s t := by
    have hletter : Edit "aΣ/ İ".toList "AΣ/ İ".toList :=
      .letter [] ['Σ', '/', ' ', 'İ'] (by decide)
    have hdelimiter : Edit "AΣ/ İ".toList "AΣ- İ".toList :=
      .delimiter ['A', 'Σ'] [' ', 'İ'] (by decide) (by decide)
    have hfewer : Edit "AΣ-İ".toList "AΣ- İ".toList :=
      .blankAfter ['A', 'Σ'] ['İ'] (by decide) (by decide)
    have hmore : Edit "AΣ-İ".toList " AΣ-İ".toList :=
      .blankFirst ['A', 'Σ', '-', 'İ'] (by decide)
    exact (Relation.EqvGen.rel _ _ hletter).trans _ _ _ <|
      (Relation.EqvGen.rel _ _ hdelimiter).trans _ _ _ <|
      ((Relation.EqvGen.rel _ _ hfewer).symm _ _).trans _ _ _ (.rel _ _ hmore)
  obtain ⟨q, ht, hcanonical, hsymbol, -⟩ := respelled_alike s t p hs hrespelled
  exact ⟨hs, hrespelled, q, ht, hcanonical, hsymbol⟩

end CurrencyPair

end MarketDesk

import MarketDesk.Proofs.Text.Capitals
import MarketDesk.Proofs.Venue.Ingestion
import MarketDesk.Proofs.Venue.Pairs
import MarketDesk.Proofs.Venue.SymbolHistory

/-!
# Pairs under one key

The store knows a pair by its small letters, and the venue knows it by its capitals. Both are the
same for pairs under one key as long as no lone capital is in them: such a capital stays in the
symbol of its pair, and is not in the symbol of the canonical pair, which has the same key. Between
pairs without lone capitals an update never puts a book under the key of a pair that the venue was
not asked for.
-/

namespace MarketDesk

namespace CurrencyPair

def NoLoneCapital (p : CurrencyPair) : Prop :=
  ∀ c ∈ p.base.toList ++ p.quote.toList, c ∉ Text.loneCapitals

instance (p : CurrencyPair) : Decidable p.NoLoneCapital :=
  List.decidableBAll (fun c => c ∉ Text.loneCapitals) (p.base.toList ++ p.quote.toList)

theorem toList_symbolOfPair (p : CurrencyPair) :
    (Client.symbolOfPair p).toList = Text.upper p.base.toList ++ Text.upper p.quote.toList := by
  rw [Client.symbolOfPair_eq, String.toList_append, upperText, upperText, String.toList_ofList,
    String.toList_ofList]

theorem HasSymbols.toList_symbolOfPair_canonical {p : CurrencyPair} (h : p.HasSymbols) :
    (Client.symbolOfPair p.canonical).toList =
      Text.upper (Text.lower p.base.toList) ++ Text.upper (Text.lower p.quote.toList) := by
  rw [toList_symbolOfPair, CurrencyPair.canonical, h.base.canonicalCurrency_eq,
    h.quote.canonicalCurrency_eq, lowerText, lowerText, String.toList_ofList, String.toList_ofList]

/-- The canonical pair has the symbol of the pair just if no lone capital gets lost. -/
theorem HasSymbols.symbolOfPair_canonical_eq_iff {p : CurrencyPair} (h : p.HasSymbols) :
    Client.symbolOfPair p.canonical = Client.symbolOfPair p ↔ p.NoLoneCapital := by
  rw [← String.toList_inj, h.toList_symbolOfPair_canonical, toList_symbolOfPair]
  constructor
  · intro heq c hc hlone
    have hupper : c ∈ Text.upper p.base.toList ++ Text.upper p.quote.toList := by
      rw [← Text.upper_append]
      exact Text.mem_upper_of_mem_loneCapitals hlone hc
    rw [← heq, List.mem_append] at hupper
    exact hupper.elim (Text.notMem_upper_lower hlone _) (Text.notMem_upper_lower hlone _)
  · intro hnone
    rw [Text.upper_lower fun c hc => hnone c (List.mem_append_left _ hc),
      Text.upper_lower fun c hc => hnone c (List.mem_append_right _ hc)]

theorem symbolOfPair_eq_of_canonical_eq {p q : CurrencyPair} (hp : p.HasSymbols)
    (hq : q.HasSymbols) (hpcap : p.NoLoneCapital) (hqcap : q.NoLoneCapital)
    (h : p.canonical = q.canonical) : Client.symbolOfPair p = Client.symbolOfPair q := by
  rw [← hp.symbolOfPair_canonical_eq_iff.mpr hpcap, ← hq.symbolOfPair_canonical_eq_iff.mpr hqcap, h]

end CurrencyPair

namespace Session

/-- An update changes a book under no key but that of its pair. -/
theorem canonical_eq_of_updateBook {s : Session} {pair : CurrencyPair} {limit : Option UInt32}
    {clock : Clock} {key : CurrencyPair} {bookType : String}
    (h : (s.updateBook pair limit clock).2.store.book? key bookType ≠ s.store.book? key bookType) :
    pair.canonical = key := by
  by_contra hne
  refine h ?_
  cases hread : readBook pair clock s.nextReply with
  | ok book => rw [updateBook_book? hread, if_neg fun hkey => hne hkey.1]
  | error e => rw [updateBook_eq, Operation.books, hread]
  | cancelled => rw [updateBook_eq, Operation.books, hread]

end Session

namespace CurrencyPair

/-- A pair has the symbol of its canonical pair at the venue just if no lone capital is in it. Pairs
without lone capitals that are under one key of the store are under one symbol at the venue, so if
the update of one changes what the store has under the key of the other, then the venue was sent
the request for the other. -/
theorem shared_key_shares_symbol (p q : CurrencyPair) (hp : p.Arises) (hq : q.Arises) :
    (Client.symbolOfPair p.canonical = Client.symbolOfPair p ↔ p.NoLoneCapital) ∧
      (p.NoLoneCapital → q.NoLoneCapital →
        (p.canonical = q.canonical → Client.symbolOfPair p = Client.symbolOfPair q) ∧
        ∀ (s : Session) limit clock bookType,
          (s.updateBook p limit clock).2.store.book? q.canonical bookType ≠
              s.store.book? q.canonical bookType →
            (s.updateBook p limit clock).2.requests =
              s.requests ++ [s.depthRequest q limit clock]) := by
  have hps := arises_iff_hasSymbols.mp hp
  have hqs := arises_iff_hasSymbols.mp hq
  refine ⟨hps.symbolOfPair_canonical_eq_iff, fun hpcap hqcap => ?_⟩
  have hsymbol (h : p.canonical = q.canonical) : Client.symbolOfPair p = Client.symbolOfPair q :=
    symbolOfPair_eq_of_canonical_eq hps hqs hpcap hqcap h
  refine ⟨hsymbol, fun s limit clock bookType hchanged => ?_⟩
  have hkey := Session.canonical_eq_of_updateBook hchanged
  rw [Session.updateBook_requests, Session.depthRequest, Session.depthRequest, hsymbol hkey]

/-- Two spellings that are not the same but for ASCII letters: a sigma at the end of a word, and a
letter whose capitals are two. -/
theorem shared_key_shares_symbol_sigma :
    let p : CurrencyPair := ⟨"AΣ", "Straße"⟩
    let q : CurrencyPair := ⟨"aς", "STRAßE"⟩
    p.Arises ∧ q.Arises ∧ p.NoLoneCapital ∧ q.NoLoneCapital ∧ p.canonical = q.canonical ∧
      Client.symbolOfPair p = Client.symbolOfPair q ∧ Client.symbolOfPair q = "AΣSTRASSE" := by
  intro p q
  have hpmade : ofSymbols p.base p.quote = .ok p := by decide
  have hqmade : ofSymbols q.base q.quote = .ok q := by decide
  have hp : p.Arises := .obtained (.symbols hpmade)
  have hq : q.Arises := .obtained (.symbols hqmade)
  have hpcap : p.NoLoneCapital := by decide +kernel
  have hqcap : q.NoLoneCapital := by decide +kernel
  have hkey : p.canonical = q.canonical := by decide +kernel
  have hsymbol := ((shared_key_shares_symbol p q hp hq).2 hpcap hqcap).1 hkey
  exact ⟨hp, hq, hpcap, hqcap, hkey, hsymbol, by decide +kernel⟩

/-- The sign of kelvin has the small letter of K and is its own capital, so the book of one symbol
at the venue comes to be stored under the key of another. -/
theorem kelvin_shares_key :
    let p : CurrencyPair := ⟨"\u212A", "USDT"⟩
    let q : CurrencyPair := ⟨"K", "USDT"⟩
    let one : Decimal := ⟨false, 1, 0, by decide, by decide⟩
    let book : Snapshot := ⟨q.canonical, [⟨one, one⟩], [], .epoch⟩
    let s := (Session.ofClient (.ofSettings .readOnly)).addReplies
      [.response ⟨200, "[7,[[\"1\",\"1\"]],[]]"⟩]
    let updated := (s.updateBook p none ⟨0, 7, .epoch, .epoch⟩).2
    p.Arises ∧ q.Arises ∧ p.canonical = q.canonical ∧
      Client.symbolOfPair p ≠ Client.symbolOfPair q ∧
      updated.requests.map Http.Request.url =
        ["https://api.binance.com/api/v3/depth?symbol=%E2%84%AAUSDT"] ∧
      updated.store.get q BookStore.spot = .ok book := by
  intro p q one book s updated
  have hpmade : ofSymbols p.base p.quote = .ok p := by decide
  have hqmade : ofSymbols q.base q.quote = .ok q := by decide
  have hkey : p.canonical = q.canonical := by decide +kernel
  have hread : Session.readBook p ⟨0, 7, .epoch, .epoch⟩ s.nextReply =
      .ok { book with pair := p } :=
    Session.readBook_eq_ok_iff.mpr ⟨_, ⟨7, [("1", "1")], []⟩, rfl, rfl, by decide +kernel, rfl⟩
  have hstored : updated.store.book? q.canonical BookStore.spot = some book := by
    rw [← hkey]
    refine (Session.updateBook_book? hread _ _).trans ?_
    rw [if_pos ⟨rfl, rfl⟩, Session.storedBook, hkey]
  refine ⟨.obtained (.symbols hpmade), .obtained (.symbols hqmade), hkey, by decide +kernel, ?_,
    BookStore.get_of_book? hstored⟩
  rw [Session.updateBook_requests]
  decide +kernel

end CurrencyPair

end MarketDesk

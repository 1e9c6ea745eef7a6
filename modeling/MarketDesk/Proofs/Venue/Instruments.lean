import MarketDesk.Proofs.Venue.Failure

/-!
# Instruments that are loaded

A market is usable if its two currencies make a pair. Loading puts the usable markets of a response
in the place of all symbols known before, and gives their number. As many symbols are known then,
unless two of these markets go by one symbol. Such a symbol is counted for each of its markets, and
known once, with the currencies of the last.
-/

namespace MarketDesk

def Market.isUsable (m : Market) : Bool :=
  (CurrencyPair.ofSymbols m.baseAsset m.quoteAsset).isOk

theorem Market.entry?_cases (m : Market) :
    (m.isUsable = true ∧ ∃ pair, m.entry? = some (m.symbol, pair)) ∨
      (m.isUsable = false ∧ m.entry? = none) := by
  unfold isUsable entry?
  cases CurrencyPair.ofSymbols m.baseAsset m.quoteAsset with
  | ok pair => exact Or.inl ⟨rfl, pair, rfl⟩
  | error e => exact Or.inr ⟨rfl, rfl⟩

namespace Instruments

def usable (i : Instruments) : List Market := i.markets.filter Market.isUsable

theorem map_fst_entries (i : Instruments) :
    i.entries.map Prod.fst = i.usable.map Market.symbol := by
  unfold entries usable
  induction i.markets with
  | nil => rfl
  | cons m markets ih =>
    rcases m.entry?_cases with ⟨husable, pair, hentry⟩ | ⟨husable, hentry⟩
    · rw [List.filterMap_cons_some hentry, List.filter_cons_of_pos husable, List.map_cons,
        List.map_cons, ih]
    · have hnot : ¬m.isUsable = true := Bool.eq_false_iff.mp husable
      rw [List.filterMap_cons_none hentry, List.filter_cons_of_neg hnot, ih]

theorem length_entries (i : Instruments) : i.entries.length = i.usable.length := by
  have hlength := congrArg List.length i.map_fst_entries
  rwa [List.length_map, List.length_map] at hlength

end Instruments

namespace Client

theorem exists_pairOfSymbol_iff (c : Client) (symbol : String) :
    (∃ pair, c.pairOfSymbol symbol = .ok pair) ↔ symbol ∈ c.symbols.pairs.keys := by
  rw [Dictionary.mem_keys_iff_isSome, pairOfSymbol, SymbolMap.resolve?]
  cases c.symbols.pairs.get? symbol with
  | some pair => exact iff_of_true ⟨_, rfl⟩ rfl
  | none => simp

end Client

namespace Session

theorem fetchInstruments_of_response {s : Session} {response : Http.Response}
    {instruments : Instruments} (hreply : s.nextReply = .response response)
    (hsuccess : response.isSuccess = true)
    (hbody : Instruments.decode.run response.body = .ok instruments) (clock : Clock) :
    (s.fetchInstruments clock).1 = .ok instruments :=
  readReply_eq_ok_iff.mpr ⟨response, hreply, hsuccess, hbody⟩

theorem loadInstruments_of_fetched {s : Session} {clock : Clock} {instruments : Instruments}
    (h : (s.fetchInstruments clock).1 = .ok instruments) :
    (s.loadInstruments clock).1 = .ok instruments.entries.length ∧
      (s.loadInstruments clock).2.client.symbols = .ofEntries instruments.entries := by
  have hfetch : s.fetchInstruments clock = (.ok instruments, (s.fetchInstruments clock).2) :=
    Prod.ext h rfl
  rw [loadInstruments, hfetch]
  exact ⟨rfl, rfl⟩

/-- If loading instruments succeeds, it gives the number of the usable markets of the response, and
the symbols of these markets are known from then on, each once, and no others. They are as many as
the number says just if no two of the markets go by one symbol, and fewer otherwise. -/
theorem loaded_symbols_number (s : Session) (clock : Clock) (n : Nat)
    (h : (s.loadInstruments clock).1 = .ok n) :
    let client := (s.loadInstruments clock).2.client
    ∃ (instruments : Instruments) (known : Finset String),
      (s.fetchInstruments clock).1 = .ok instruments ∧
      n = instruments.usable.length ∧
      (∀ symbol, symbol ∈ known ↔ ∃ pair, client.pairOfSymbol symbol = .ok pair) ∧
      (∀ symbol, symbol ∈ known ↔ ∃ market ∈ instruments.usable, market.symbol = symbol) ∧
      client.symbols.size = known.card ∧ known.card ≤ n ∧
      (known.card = n ↔ (instruments.usable.map Market.symbol).Nodup) := by
  intro client
  obtain ⟨instruments, hread, hcount, hsymbols⟩ := loadInstruments_of_ok h
  rw [instruments.length_entries] at hcount
  have hsize : client.symbols.size = (instruments.usable.map Market.symbol).toFinset.card := by
    rw [← instruments.map_fst_entries, ← Dictionary.size_ofList]
    exact congrArg SymbolMap.size hsymbols
  refine ⟨instruments, (instruments.usable.map Market.symbol).toFinset, hread, hcount, ?_, ?_,
    hsize, ?_, ?_⟩
  · intro symbol
    have hkeys : client.symbols.pairs = .ofList instruments.entries :=
      congrArg SymbolMap.pairs hsymbols
    rw [client.exists_pairOfSymbol_iff, hkeys, Dictionary.mem_keys_ofList,
      instruments.map_fst_entries, List.mem_toFinset]
  · intro symbol
    rw [List.mem_toFinset, List.mem_map]
  · rw [hcount, ← List.length_map Market.symbol]
    exact List.toFinset_card_le _
  · rw [hcount, ← List.length_map Market.symbol]
    exact Multiset.toFinset_card_eq_card_iff_nodup

/-- Two usable markets, and between them one without a base currency. -/
theorem loaded_symbols_number_two :
    let body := "[\"UTC\",0,[[\"ETHBTC\",\"TRADING\",\"eth\",\"btc\"]," ++
      "[\"BTC\",\"BREAK\",\" \",\"btc\"],[\"BNBUSDT\",\"BREAK\",\"BNB\",\"USDT\"]]]"
    let s := (ofClient (.ofSettings .readOnly)).addReplies [.response ⟨200, body⟩]
    let clock : Clock := ⟨0, 7, .epoch, .epoch⟩
    let loaded := s.loadInstruments clock
    loaded.1 = .ok 2 ∧ loaded.2.client.symbols.size = 2 ∧ ∃ known : Finset String,
      (∀ symbol, symbol ∈ known ↔ ∃ pair, loaded.2.client.pairOfSymbol symbol = .ok pair) ∧
        known.card = 2 := by
  intro body s clock loaded
  let instruments : Instruments := ⟨"UTC", 0, [⟨"ETHBTC", "TRADING", "eth", "btc", 0, 0⟩,
    ⟨"BTC", "BREAK", " ", "btc", 0, 0⟩, ⟨"BNBUSDT", "BREAK", "BNB", "USDT", 0, 0⟩]⟩
  have hbody : Instruments.decode.run body = .ok instruments := by decide +kernel
  have hreply : s.nextReply = .response ⟨200, body⟩ := rfl
  have hread := fetchInstruments_of_response hreply rfl hbody clock
  have hcount : instruments.entries.length = 2 := by decide
  have hloaded : loaded.1 = .ok 2 := hcount ▸ (loadInstruments_of_fetched hread).1
  obtain ⟨instruments', known, hfetch, -, hknown, -, hsize, -, hcard⟩ :=
    loaded_symbols_number s clock 2 hloaded
  obtain rfl : instruments = instruments' := Outcome.ok.inj (hread.symm.trans hfetch)
  have htwo : known.card = 2 := hcard.mpr (by decide)
  exact ⟨hloaded, hsize.trans htwo, known, hknown, htwo⟩

/-- A symbol that two markets go by is counted twice and known once. -/
theorem loaded_symbols_number_repeated :
    let market := "\x7b\"symbol\":\"BTCUSDT\",\"status\":\"TRADING\",\"baseAsset\":\"BTC\"," ++
      "\"quoteAsset\":\"USDT\"\x7d"
    let body := "\x7b\"symbols\":[" ++ market ++ "," ++ market ++ "]\x7d"
    let s := (ofClient (.ofSettings .readOnly)).addReplies [.response ⟨200, body⟩]
    let clock : Clock := ⟨0, 7, .epoch, .epoch⟩
    let loaded := s.loadInstruments clock
    loaded.1 = .ok 2 ∧ loaded.2.client.symbols.size = 1 := by
  intro market body s clock loaded
  let instruments : Instruments := ⟨"", 0, [⟨"BTCUSDT", "TRADING", "BTC", "USDT", 0, 0⟩,
    ⟨"BTCUSDT", "TRADING", "BTC", "USDT", 0, 0⟩]⟩
  have hbody : Instruments.decode.run body = .ok instruments := by decide +kernel
  have hreply : s.nextReply = .response ⟨200, body⟩ := rfl
  have hread := fetchInstruments_of_response hreply rfl hbody clock
  have hcount : instruments.entries.length = 2 := by decide
  have hsize : (SymbolMap.ofEntries instruments.entries).size = 1 := by decide
  obtain ⟨hnumber, hsymbols⟩ := loadInstruments_of_fetched hread
  refine ⟨hnumber.trans (congrArg Outcome.ok hcount), ?_⟩
  rw [← hsize, ← hsymbols]

end Session

end MarketDesk

import MarketDesk.Proofs.Venue.Exchange

/-!
# Operations that fail

An operation that ends with an error or is cancelled has learnt nothing: the symbols and the books
are those from before, whichever stage it had come to. Of the limiter it has used what its call was
admitted to, and no more. A list of instruments that does arrive takes the place of all symbols
known before.
-/

namespace MarketDesk

namespace Outcome

variable {α β : Type}

theorem bind_eq_error_iff {o : Outcome α} {f : α → Outcome β} {e : VenueError} :
    o.bind f = .error e ↔ o = .error e ∨ ∃ value, o = .ok value ∧ f value = .error e := by
  cases o <;> simp [bind]

theorem bind_eq_ok_iff {o : Outcome α} {f : α → Outcome β} {value : β} :
    o.bind f = .ok value ↔ ∃ a, o = .ok a ∧ f a = .ok value := by
  cases o <;> simp [bind]

theorem map_eq_ok_iff {o : Outcome α} {f : α → β} {value : β} :
    o.map f = .ok value ↔ ∃ a, o = .ok a ∧ f a = value := by
  cases o <;> simp [map, bind]

theorem map_eq_error_iff {o : Outcome α} {f : α → β} {e : VenueError} :
    o.map f = .error e ↔ o = .error e := by
  cases o <;> simp [map, bind]

theorem ofExcept_eq_ok_iff {x : Except VenueError α} {value : α} :
    ofExcept x = .ok value ↔ x = .ok value := by
  cases x <;> simp [ofExcept]

theorem ofExcept_eq_error_iff {x : Except VenueError α} {e : VenueError} :
    ofExcept x = .error e ↔ x = .error e := by
  cases x <;> simp [ofExcept]

/-- An outcome without a value. -/
def Failed (o : Outcome α) : Prop := (∃ e, o = error e) ∨ o = cancelled

theorem not_failed_ok (value : α) : ¬(ok value).Failed := by
  rintro (⟨e, h⟩ | h) <;> exact nomatch h

theorem failed_map_iff (f : α → β) {o : Outcome α} : (o.map f).Failed ↔ o.Failed := by
  cases o with
  | ok value => exact iff_of_false (not_failed_ok _) (not_failed_ok _)
  | error e => exact iff_of_true (Or.inl ⟨e, rfl⟩) (Or.inl ⟨e, rfl⟩)
  | cancelled => exact iff_of_true (Or.inr rfl) (Or.inr rfl)

end Outcome

/-- A map that has the symbols of a list of entries and no others, each with its last entry. -/
structure SymbolMap.Lists (m : SymbolMap) (entries : List (String × CurrencyPair)) : Prop where
  resolve? : ∀ symbol format, m.resolve? symbol format =
    (entries.reverse.find? fun e => e.1 = symbol).map fun e => e.2.inCase format.uppercase
  mem_keys : ∀ symbol, symbol ∈ m.pairs.keys ↔ ∃ pair, (symbol, pair) ∈ entries
  nodup_keys : m.pairs.keys.Nodup

theorem SymbolMap.lists_ofEntries (entries : List (String × CurrencyPair)) :
    (ofEntries entries).Lists entries where
  resolve? symbol format := by
    have hget : (Dictionary.ofList entries).get? symbol =
        (entries.reverse.find? fun e => e.1 = symbol).map Prod.snd := by
      rw [Dictionary.ofList, Dictionary.get?_setAll, Dictionary.get?_empty, Option.or_none]
    rw [SymbolMap.resolve?, ofEntries, hget, Option.map_map]
    rfl
  mem_keys symbol := by
    rw [ofEntries, Dictionary.mem_keys_ofList, List.mem_map]
    constructor
    · rintro ⟨e, he, rfl⟩
      exact ⟨e.2, he⟩
    · rintro ⟨pair, h⟩
      exact ⟨(symbol, pair), h, rfl⟩
  nodup_keys := Dictionary.nodup_keys_ofList entries

theorem Instruments.mem_entries_iff (i : Instruments) (symbol : String) (pair : CurrencyPair) :
    (symbol, pair) ∈ i.entries ↔ ∃ market ∈ i.markets, market.symbol = symbol ∧
      CurrencyPair.ofSymbols market.baseAsset market.quoteAsset = .ok pair := by
  have hentry (market : Market) : market.entry? = some (symbol, pair) ↔ market.symbol = symbol ∧
      CurrencyPair.ofSymbols market.baseAsset market.quoteAsset = .ok pair := by
    unfold Market.entry?
    cases CurrencyPair.ofSymbols market.baseAsset market.quoteAsset with
    | ok p => simp
    | error e => simp
  simp only [entries, List.mem_filterMap, hentry]

namespace Operation

variable {op : Operation} {clock : Clock} {reply : Reply}

theorem symbols_of_failed (h : (op.answer clock reply).Failed) (known : SymbolMap) :
    op.symbols reply known = known := by
  cases op with
  | loadInstruments =>
    have hread := (Outcome.failed_map_iff _).mp h
    unfold symbols
    cases hr : Session.readReply Instruments.decode reply with
    | ok instruments => exact absurd (hr ▸ hread) (Outcome.not_failed_ok _)
    | error e => rfl
    | cancelled => rfl
  | _ => rfl

theorem books_of_failed (h : (op.answer clock reply).Failed) (store : BookStore) :
    op.books clock reply store = store := by
  cases op with
  | updateBook pair limit =>
    have hread := (Outcome.failed_map_iff _).mp h
    simp only [books]
    cases hr : Session.readBook pair clock reply with
    | ok snapshot => exact absurd (hr ▸ hread) (Outcome.not_failed_ok _)
    | error e => rfl
    | cancelled => rfl
  | _ => rfl

/-- A call that the limiter refuses does not fail: it gives the value for no news. -/
theorem limitedCall?_of_failed_refusal {limiter : RateLimiter} {outcome : Outcome Answer}
    (h : op.refusal? clock limiter = some outcome) (hfailed : outcome.Failed) :
    op.limitedCall? clock = none := by
  have hnews {admitted : Bool} {value : Answer}
      (h : (if admitted then none else some (.ok value)) = some outcome) : ¬outcome.Failed := by
    cases admitted with
    | true => exact nomatch h
    | false => exact Option.some.inj h ▸ Outcome.not_failed_ok value
  cases op with
  | pollOpenOrders budget symbol => exact absurd hfailed (hnews h)
  | sendRateLimited budget method path params otherwise => exact absurd hfailed (hnews h)
  | _ => rfl

end Operation

namespace Session

theorem readReply_eq_ok_iff {α : Type} {decode : Decoder α} {reply : Reply} {value : α} :
    readReply decode reply = .ok value ↔ ∃ response, reply = .response response ∧
      response.isSuccess = true ∧ decode.run response.body = .ok value := by
  cases reply with
  | failure reason => simp [readReply]
  | httpFailure => simp [readReply]
  | hang => simp [readReply]
  | response r =>
    simp only [readReply, Http.Response.decode, Reply.response.injEq, exists_eq_left']
    cases r.isSuccess with
    | false => cases Rejection.decode.run r.body <;> simp [Outcome.ofExcept]
    | true => cases decode.run r.body <;> simp [Outcome.ofExcept]

variable {s : Session} {op : Operation} {clock : Clock}

theorem run_of_failed (h : (s.run op clock).1.Failed) :
    (s.run op clock).2.client.symbols = s.client.symbols ∧
      (s.run op clock).2.store = s.store := by
  rw [run_symbols, run_store]
  cases hsigned : op.call.signed with
  | false =>
    rw [run_of_unsigned clock s hsigned] at h
    exact ⟨Operation.symbols_of_failed h s.client.symbols, Operation.books_of_failed h s.store⟩
  | true => exact ⟨op.symbols_of_signed hsigned .., op.books_of_signed hsigned ..⟩

theorem admits_of_failed (h : (s.run op clock).1.Failed) {call : RateLimiter.Call}
    (hcall : op.limitedCall? clock = some call) : s.client.limiter.admits call = true := by
  rw [run_eq] at h
  cases hrefusal : op.refusal? clock s.client.limiter with
  | some outcome =>
    rw [hrefusal] at h
    exact nomatch (Operation.limitedCall?_of_failed_refusal hrefusal h).symm.trans hcall
  | none => exact ((op.refusal?_eq_none_iff clock s.client.limiter).mp hrefusal).2 call hcall

/-- The session after a list of instruments has been loaded. -/
theorem loadInstruments_of_ok {n : Nat} (h : (s.loadInstruments clock).1 = .ok n) :
    ∃ instruments, readReply Instruments.decode s.nextReply = .ok instruments ∧
      n = instruments.entries.length ∧
      (s.loadInstruments clock).2.client.symbols = .ofEntries instruments.entries := by
  have hfetch : s.fetchInstruments clock =
      (readReply Instruments.decode s.nextReply, (s.fetchInstruments clock).2) := rfl
  rw [loadInstruments, hfetch] at h ⊢
  cases hread : readReply Instruments.decode s.nextReply with
  | ok instruments =>
    rw [hread] at h
    exact ⟨instruments, rfl, (Outcome.ok.inj h).symm, rfl⟩
  | error e => rw [hread] at h; cases h
  | cancelled => rw [hread] at h; cases h

/-- Whatever an operation has come to when it fails or is cancelled, all the symbols and all the
books are as they were, and so is the limiter, but for the one slot of its own endpoint that a call
under a budget was admitted to. Loading instruments, if it succeeds, leaves the symbols of the
markets in the response whose currencies make a pair, and no others. -/
theorem failed_keeps_state (s : Session) (op : Operation) (clock : Clock) :
    let run := s.run op clock
    let loaded := s.loadInstruments clock
    (run.1.Failed →
      run.2.client.symbols = s.client.symbols ∧ run.2.store = s.store ∧
        (op.limitedCall? clock = none → run.2.client.limiter = s.client.limiter) ∧
        ∀ call, op.limitedCall? clock = some call → s.client.limiter.admits call = true ∧
          s.client.limiter.Spent run.2.client.limiter call.key call.now) ∧
      ∀ n, loaded.1 = .ok n → ∃ response instruments,
        s.nextReply = .response response ∧ response.isSuccess = true ∧
          Instruments.decode.run response.body = .ok instruments ∧
          n = instruments.entries.length ∧
          loaded.2.client.symbols.Lists instruments.entries ∧
          ∀ symbol pair, (symbol, pair) ∈ instruments.entries ↔
            ∃ market ∈ instruments.markets, market.symbol = symbol ∧
              CurrencyPair.ofSymbols market.baseAsset market.quoteAsset = .ok pair := by
  intro run loaded
  constructor
  · intro hfailed
    obtain ⟨hsymbols, hstore⟩ := run_of_failed hfailed
    have hlimiter : run.2.client.limiter =
        s.client.limiter.acquireAll (op.limitedCall? clock).toList := run_limiter op clock s
    refine ⟨hsymbols, hstore, ?_, ?_⟩
    · intro hplain
      rw [hlimiter, hplain]
      rfl
    · intro call hcall
      have hadmits := admits_of_failed hfailed hcall
      refine ⟨hadmits, ?_⟩
      rw [hlimiter, hcall]
      exact RateLimiter.spent_of_admits hadmits
  · intro n hn
    obtain ⟨instruments, hread, hcount, hsymbols⟩ := loadInstruments_of_ok hn
    obtain ⟨response, hreply, hsuccess, hbody⟩ := readReply_eq_ok_iff.mp hread
    have hlists : loaded.2.client.symbols.Lists instruments.entries :=
      hsymbols.symm ▸ SymbolMap.lists_ofEntries instruments.entries
    exact ⟨response, instruments, hreply, hsuccess, hbody, hcount, hlists,
      instruments.mem_entries_iff⟩

end Session

end MarketDesk

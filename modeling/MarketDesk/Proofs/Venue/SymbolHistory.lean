import MarketDesk.Proofs.Currency.Symbols
import MarketDesk.Proofs.Venue.Instruments

/-!
# Symbols after any steps

The symbols of a client change in three ways: one is inserted, a list takes the place of all of
them, or a list of instruments is loaded. Loading is the second of these if the list arrives, and
otherwise changes nothing. So the entries that count are those of the last list that was published,
followed by what was inserted since, and a symbol stands for the last of its entries. The symbol of
a pair is its two symbols in capital letters, whichever case they were in.
-/

namespace MarketDesk

inductive SymbolStep
  | insert (symbol : String) (pair : CurrencyPair)
  | replace (entries : List (String × CurrencyPair))
  | operate (op : Operation) (clock : Clock)

namespace SymbolStep

def inserted? : SymbolStep → Option (String × CurrencyPair)
  | insert symbol pair => some (symbol, pair)
  | replace _ | operate _ _ => none

def insertions (steps : List SymbolStep) : List (String × CurrencyPair) :=
  steps.filterMap inserted?

theorem insertions_cons (step : SymbolStep) (rest : List SymbolStep) :
    insertions (step :: rest) = step.inserted?.toList ++ insertions rest := by
  unfold insertions
  cases h : step.inserted? with
  | none => rw [List.filterMap_cons_none h]; rfl
  | some e => rw [List.filterMap_cons_some h]; rfl

end SymbolStep

open SymbolStep

namespace Session

def withSymbols (s : Session) (symbols : SymbolMap) : Session :=
  { s with client := { s.client with symbols } }

def takeStep (s : Session) : SymbolStep → Session
  | .insert symbol pair => s.withSymbols (s.client.symbols.insert symbol pair)
  | .replace entries => s.withSymbols (.ofEntries entries)
  | .operate op clock => (s.run op clock).2

def takeSteps (s : Session) (steps : List SymbolStep) : Session := steps.foldl takeStep s

/-- A step puts a list in the place of all symbols: one that is given, or one that arrives. -/
inductive Publishes (s : Session) : SymbolStep → List (String × CurrencyPair) → Prop
  | given (entries : List (String × CurrencyPair)) : s.Publishes (.replace entries) entries
  | loaded {clock : Clock} {instruments : Instruments}
      (h : (s.fetchInstruments clock).1 = .ok instruments) :
      s.Publishes (.operate .loadInstruments clock) instruments.entries

/-- None of the steps puts a list in the place of all symbols. -/
def Unlisted (s : Session) : List SymbolStep → Prop
  | [] => True
  | step :: rest => (∀ entries, ¬s.Publishes step entries) ∧ (s.takeStep step).Unlisted rest

/-- The entries that count after some steps from a session without symbols. -/
inductive Standing (s : Session) : List SymbolStep → List (String × CurrencyPair) → Prop
  | unlisted {steps : List SymbolStep} (h : s.Unlisted steps) : s.Standing steps (insertions steps)
  | listed {before after : List SymbolStep} {step : SymbolStep}
      {entries : List (String × CurrencyPair)} (hlist : (s.takeSteps before).Publishes step entries)
      (hafter : ((s.takeSteps before).takeStep step).Unlisted after) :
      s.Standing (before ++ step :: after) (entries ++ insertions after)

variable {s : Session} {step : SymbolStep} {steps : List SymbolStep}
  {entries : List (String × CurrencyPair)}

theorem takeSteps_append (s : Session) (before after : List SymbolStep) :
    s.takeSteps (before ++ after) = (s.takeSteps before).takeSteps after := List.foldl_append

theorem Publishes.symbols_eq (h : s.Publishes step entries) :
    (s.takeStep step).client.symbols = .ofEntries entries := by
  cases h with
  | given => rfl
  | loaded h => exact (loadInstruments_of_fetched h).2

/-- Loading instruments publishes their list just if it succeeds. -/
theorem exists_publishes_loadInstruments_iff (s : Session) (clock : Clock) :
    (∃ entries, s.Publishes (.operate .loadInstruments clock) entries) ↔
      ∃ n, (s.loadInstruments clock).1 = .ok n := by
  constructor
  · rintro ⟨entries, hlist⟩
    cases hlist with
    | loaded h => exact ⟨_, (loadInstruments_of_fetched h).1⟩
  · rintro ⟨n, hn⟩
    obtain ⟨instruments, hread, -, -⟩ := loadInstruments_of_ok hn
    exact ⟨_, .loaded hread⟩

/-- Other steps set the symbol that they insert, if they insert one. -/
theorem takeStep_of_not_publishes (h : ∀ entries, ¬s.Publishes step entries) :
    (s.takeStep step).client.symbols.pairs =
      s.client.symbols.pairs.setAll step.inserted?.toList := by
  cases step with
  | insert symbol pair => rfl
  | replace entries => exact absurd (.given entries) (h entries)
  | operate op clock =>
    have hknown : op.symbols s.nextReply s.client.symbols = s.client.symbols := by
      cases op with
      | loadInstruments =>
        unfold Operation.symbols
        cases hread : readReply Instruments.decode s.nextReply with
        | ok instruments => exact absurd (.loaded hread) (h instruments.entries)
        | error e => rfl
        | cancelled => rfl
      | _ => rfl
    rw [takeStep, run_symbols, hknown]
    rfl

namespace Unlisted

theorem pairs_eq (h : s.Unlisted steps) :
    (s.takeSteps steps).client.symbols.pairs =
      s.client.symbols.pairs.setAll (insertions steps) := by
  induction steps generalizing s with
  | nil => rfl
  | cons step rest ih =>
    have hrest : (s.takeSteps (step :: rest)).client.symbols.pairs =
        (s.takeStep step).client.symbols.pairs.setAll (insertions rest) := ih h.2
    rw [hrest, takeStep_of_not_publishes h.1, insertions_cons, Dictionary.setAll_append]

theorem concat (h : s.Unlisted steps)
    (hlast : ∀ entries, ¬(s.takeSteps steps).Publishes step entries) :
    s.Unlisted (steps ++ [step]) := by
  induction steps generalizing s with
  | nil => exact ⟨hlast, trivial⟩
  | cons first rest ih => exact ⟨h.1, ih h.2 hlast⟩

end Unlisted

namespace Standing

theorem exists_entries (s : Session) (steps : List SymbolStep) :
    ∃ entries, s.Standing steps entries := by
  induction steps using List.reverseRecOn with
  | nil => exact ⟨_, .unlisted trivial⟩
  | append_singleton steps step ih =>
    by_cases hlast : ∃ entries, (s.takeSteps steps).Publishes step entries
    · obtain ⟨entries, hlist⟩ := hlast
      exact ⟨_, .listed hlist trivial⟩
    · have hnone := not_exists.mp hlast
      obtain ⟨entries, hstanding⟩ := ih
      cases hstanding with
      | unlisted h => exact ⟨_, .unlisted (h.concat hnone)⟩
      | @listed before after last entries hlist hafter =>
        rw [takeSteps_append] at hnone
        rw [List.append_assoc, List.cons_append]
        exact ⟨_, .listed hlist (hafter.concat hnone)⟩

theorem symbols_eq (hempty : s.client.symbols = .empty) (h : s.Standing steps entries) :
    (s.takeSteps steps).client.symbols = .ofEntries entries := by
  cases h with
  | unlisted h =>
    have hpairs := h.pairs_eq
    rw [hempty] at hpairs
    exact congrArg SymbolMap.mk hpairs
  | @listed before after last entries hlist hafter =>
    have hpairs := hafter.pairs_eq
    rw [hlist.symbols_eq] at hpairs
    rw [takeSteps_append, SymbolMap.ofEntries, Dictionary.ofList, Dictionary.setAll_append]
    exact congrArg SymbolMap.mk hpairs

end Standing

end Session

namespace Client

theorem symbolOfPair_eq (pair : CurrencyPair) :
    symbolOfPair pair = upperText pair.base ++ upperText pair.quote := by
  have hjoined : symbolOfPair pair = upperText (pair.base ++ "" ++ pair.quote) := rfl
  rw [hjoined, String.append_empty, upperText_append]

theorem symbolOfPair_upper (pair : CurrencyPair) :
    symbolOfPair ⟨upperText pair.base, upperText pair.quote⟩ = symbolOfPair pair := by
  rw [symbolOfPair_eq, symbolOfPair_eq, upperText_upperText, upperText_upperText]

theorem pairOfSymbol_eq_error_iff (c : Client) (symbol : String) :
    c.pairOfSymbol symbol = .error (.unknownSymbol symbol) ↔ symbol ∉ c.symbols.pairs.keys := by
  rw [← exists_pairOfSymbol_iff]
  unfold pairOfSymbol
  cases c.symbols.resolve? symbol requestFormat with
  | some pair => simp
  | none => simp

theorem pairOfSymbol_of_get? {c : Client} {symbol : String} {pair : CurrencyPair}
    (h : c.symbols.pairs.get? symbol = some pair) :
    c.pairOfSymbol symbol = .ok ⟨upperText pair.base, upperText pair.quote⟩ := by
  rw [pairOfSymbol, SymbolMap.resolve?, h]
  rfl

end Client

namespace Session

/-- After any steps, and operations between them, a symbol is refused as unknown just if it is in
no entry of the last list that was published and was not inserted since. Otherwise it stands for the
last of its entries, in capital letters, and is the symbol of the pair that it stands for if it is
that entry's two symbols in capital letters. Loading instruments publishes a list just if it
succeeds. The symbol of a pair is its base and its quote in capital letters, and is that of the pair
in capital letters. -/
theorem symbols_after_steps (settings : Settings) (replies : List Reply)
    (steps : List SymbolStep) :
    let fresh := (ofClient (.ofSettings settings)).addReplies replies
    let client := (fresh.takeSteps steps).client
    (∃ entries, fresh.Standing steps entries) ∧
      (∀ entries, fresh.Standing steps entries → ∀ symbol,
        (client.pairOfSymbol symbol = .error (.unknownSymbol symbol) ↔
          symbol ∉ entries.map Prod.fst) ∧
        (symbol ∈ entries.map Prod.fst → ∃ before pair after,
          entries = before ++ (symbol, pair) :: after ∧ symbol ∉ after.map Prod.fst ∧
          client.pairOfSymbol symbol = .ok ⟨upperText pair.base, upperText pair.quote⟩ ∧
          (symbol = upperText (pair.base ++ pair.quote) →
            (client.pairOfSymbol symbol).map Client.symbolOfPair = .ok symbol))) ∧
      (∀ (s : Session) (clock : Clock),
        (∃ entries, s.Publishes (.operate .loadInstruments clock) entries) ↔
          ∃ n, (s.loadInstruments clock).1 = .ok n) ∧
      ∀ pair, Client.symbolOfPair pair = upperText pair.base ++ upperText pair.quote ∧
        Client.symbolOfPair ⟨upperText pair.base, upperText pair.quote⟩ =
          Client.symbolOfPair pair := by
  intro fresh client
  refine ⟨Standing.exists_entries fresh steps, fun entries hstanding symbol => ?_,
    exists_publishes_loadInstruments_iff,
    fun pair => ⟨Client.symbolOfPair_eq pair, Client.symbolOfPair_upper pair⟩⟩
  have hpairs : client.symbols.pairs = .ofList entries :=
    congrArg SymbolMap.pairs (hstanding.symbols_eq rfl)
  constructor
  · rw [client.pairOfSymbol_eq_error_iff, hpairs, Dictionary.mem_keys_ofList]
  · intro hmem
    obtain ⟨pair, hget⟩ : ∃ pair, client.symbols.pairs.get? symbol = some pair := by
      rwa [← Option.isSome_iff_exists, ← Dictionary.mem_keys_iff_isSome, hpairs,
        Dictionary.mem_keys_ofList]
    obtain ⟨before, after, hentries, hlast⟩ :=
      Dictionary.get?_ofList_eq_some_iff.mp (hpairs ▸ hget)
    have hpair := client.pairOfSymbol_of_get? hget
    refine ⟨before, pair, after, hentries, hlast, hpair, fun hsymbol => ?_⟩
    rw [hpair]
    refine congrArg Except.ok ?_
    rw [Client.symbolOfPair_upper, Client.symbolOfPair_eq, ← upperText_append, ← hsymbol]

end Session

end MarketDesk

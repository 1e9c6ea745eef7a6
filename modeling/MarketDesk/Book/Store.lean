import MarketDesk.Book.Snapshot
import MarketDesk.Dictionary

/-!
# The order book store

The latest snapshot for each base currency, quote currency and type of book. Currencies are kept in
canonical form, so a book is found under every spelling of its pair. An unknown base or quote is an
error; an unknown type of book under a known pair is an empty book.
-/

namespace MarketDesk

inductive BookError
  | primaryNotFound (base : String)
  | secondaryNotFound (base quote : String)
  deriving DecidableEq, Repr

def BookError.message : BookError → String
  | primaryNotFound base => "primary currency for orderbook not found: " ++ base
  | secondaryNotFound base quote =>
      "secondary currency for orderbook not found: " ++ base ++ "-" ++ quote

abbrev BooksByType := Dictionary String Snapshot

abbrev BooksByQuote := Dictionary String BooksByType

structure BookStore where
  books : Dictionary String BooksByQuote

namespace BookStore

/-- The type of book that a venue's spot market has. -/
def spot : String := "SPOT"

def empty : BookStore := ⟨.empty⟩

def byQuote? (s : BookStore) (base : String) : Option BooksByQuote := s.books.get? base

def byType? (s : BookStore) (base quote : String) : Option BooksByType :=
  (s.byQuote? base).bind fun b => b.get? quote

def get (s : BookStore) (pair : CurrencyPair) (bookType : String) : Except BookError Snapshot :=
  let key := pair.canonical
  match s.byQuote? key.base with
  | none => .error (.primaryNotFound key.base)
  | some byQuote =>
      match byQuote.get? key.quote with
      | none => .error (.secondaryNotFound key.base key.quote)
      | some byType => .ok ((byType.get? bookType).getD (.empty key))

/-- Puts a snapshot in the place of what stood under the same key. It takes the canonical pair and
the time at which it was put there. -/
def upsert (s : BookStore) (pair : CurrencyPair) (bookType : String) (snapshot : Snapshot)
    (now : Instant) : BookStore :=
  let key := pair.canonical
  let entry := { snapshot with pair := key, lastUpdated := now }
  ⟨s.books.update key.base fun byQuote =>
    (byQuote.getD .empty).update key.quote fun byType =>
      (byType.getD .empty).set bookType entry⟩

def hasBase (s : BookStore) (base : String) : Bool := s.books.contains (canonicalCurrency base)

def hasPair (s : BookStore) (pair : CurrencyPair) : Bool :=
  (s.byType? pair.canonical.base pair.canonical.quote).isSome

def keys (s : BookStore) : List (CurrencyPair × String) :=
  s.books.entries.flatMap fun (base, byQuote) =>
    byQuote.entries.flatMap fun (quote, byType) =>
      byType.keys.map fun bookType => (⟨base, quote⟩, bookType)

end BookStore

end MarketDesk

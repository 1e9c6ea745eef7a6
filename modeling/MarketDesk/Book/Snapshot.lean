import MarketDesk.Currency
import MarketDesk.Time

/-!
# Order book snapshots

The order book of one pair as last reported: levels of price and amount on either side, in the order
in which the venue gave them, and the time of the report. A total is the sum of the amounts of a
side and of what they cost at their prices.

In JSON levels and snapshots are records: decimals are strings with every digit after the point, and
times have the form of RFC 3339.
-/

namespace MarketDesk

open Json

structure Level where
  price : Decimal
  amount : Decimal
  deriving DecidableEq

structure Snapshot where
  pair : CurrencyPair
  bids : List Level
  asks : List Level
  lastUpdated : Instant
  deriving DecidableEq

/-- A sum of amounts and the money that they are worth. -/
structure Total where
  amount : Decimal
  notional : Decimal
  deriving DecidableEq

namespace Total

def zero : Total := ⟨.zero, .zero⟩

def add (t : Total) (l : Level) : Except Decimal.Overflow Total := do
  let amount ← t.amount.add l.amount
  let worth ← l.amount.mul l.price
  let notional ← t.notional.add worth
  return ⟨amount, notional⟩

def addAll (t : Total) : List Level → Except Decimal.Overflow Total
  | [] => .ok t
  | level :: rest =>
      match t.add level with
      | .error e => .error e
      | .ok t => t.addAll rest

def ofLevels (levels : List Level) : Except Decimal.Overflow Total := zero.addAll levels

end Total

namespace Snapshot

/-- A book without levels, as of the epoch. -/
def empty (pair : CurrencyPair) : Snapshot := ⟨pair, [], [], .epoch⟩

def isEmpty (s : Snapshot) : Bool := s.bids.isEmpty && s.asks.isEmpty

def bestBid? (s : Snapshot) : Option Level := s.bids.head?

def bestAsk? (s : Snapshot) : Option Level := s.asks.head?

def totalBids (s : Snapshot) : Except Decimal.Overflow Total := Total.ofLevels s.bids

def totalAsks (s : Snapshot) : Except Decimal.Overflow Total := Total.ofLevels s.asks

end Snapshot

def Decimal.toJson (d : Decimal) : Value := .string d.toText

def Level.fields : Fields [Decimal, Decimal] :=
  (.required "price" Decode.decimal, .required "amount" Decode.decimal, ())

def Level.decode : Decoder Level := fun json => do
  let (price, amount, ()) ← Level.fields.decode json
  return ⟨price, amount⟩

def Level.toJson (l : Level) : Value :=
  .object [("price", l.price.toJson), ("amount", l.amount.toJson)]

def Instant.decode : Decoder Instant := fun json => do
  let s ← Decode.text json
  match Rfc3339.parse? s with
  | some t => return t
  | none => throw .mismatch

def Instant.toJson (t : Instant) : Value := .string (Rfc3339.toText t)

def Snapshot.fields : Fields [CurrencyPair, List Level, List Level, Instant] :=
  (.required "pair" CurrencyPair.decode, .required "bids" (Decode.list Level.decode),
    .required "asks" (Decode.list Level.decode), .required "last_updated" Instant.decode, ())

def Snapshot.decode : Decoder Snapshot := fun json => do
  let (pair, bids, asks, lastUpdated, ()) ← Snapshot.fields.decode json
  return ⟨pair, bids, asks, lastUpdated⟩

def Snapshot.toJson (s : Snapshot) : Value :=
  .object [("pair", s.pair.toJson), ("bids", .array (s.bids.map Level.toJson)),
    ("asks", .array (s.asks.map Level.toJson)), ("last_updated", s.lastUpdated.toJson)]

end MarketDesk

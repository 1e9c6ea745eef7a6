import MarketDesk.Json.Record
import MarketDesk.Venue.Error

/-!
# Market depth

The depth of a market as the venue sends it, with prices and amounts as texts. A snapshot has the
same levels in the same order, without those whose amount is zero; any other level must have a price
and an amount above zero.
-/

namespace MarketDesk

open Json

structure Depth where
  lastUpdateId : UInt64
  bids : List (String × String)
  asks : List (String × String)
  deriving DecidableEq

namespace Depth

def levels : Decoder (List (String × String)) := Decode.list (Decode.pair Decode.text Decode.text)

def fields : Fields [UInt64, List (String × String), List (String × String)] :=
  (.required "lastUpdateId" Decode.uint64, .required "bids" levels, .required "asks" levels, ())

def decode : Decoder Depth := fun json => do
  let (lastUpdateId, bids, asks, ()) ← fields.decode json
  return ⟨lastUpdateId, bids, asks⟩

inductive LevelError
  | price (text : String) (cause : Decimal.NotPositive)
  | amount (text : String) (cause : Decimal.NotPositive)

def LevelError.message : LevelError → String
  | price text cause => "bad price '" ++ text ++ "': " ++ cause.message
  | amount text cause => "bad amount '" ++ text ++ "': " ++ cause.message

def isZeroAmount (amount : String) : Bool :=
  match Decimal.parseChars (Text.trim amount.toList) with
  | .ok d => d.isZero
  | .error _ => false

def readLevel (level : String × String) : Except LevelError Level :=
  match Decimal.parsePositive level.1 with
  | .error e => .error (.price level.1 e)
  | .ok price =>
      match Decimal.parsePositive level.2 with
      | .error e => .error (.amount level.2 e)
      | .ok amount => .ok ⟨price, amount⟩

def readLevels : List (String × String) → Except LevelError (List Level)
  | [] => .ok []
  | level :: rest =>
      if isZeroAmount level.2 then readLevels rest
      else
        match readLevel level with
        | .error e => .error e
        | .ok l => (readLevels rest).map fun ls => l :: ls

def toSnapshot (d : Depth) (pair : CurrencyPair) (now : Instant) : Except VenueError Snapshot :=
  match readLevels d.bids with
  | .error e => .error (.malformedResponse e.message)
  | .ok bids =>
      match readLevels d.asks with
      | .error e => .error (.malformedResponse e.message)
      | .ok asks => .ok ⟨pair, bids, asks, now⟩

end Depth

end MarketDesk

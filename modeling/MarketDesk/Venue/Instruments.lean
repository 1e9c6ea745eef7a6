import MarketDesk.Currency
import MarketDesk.Json.Record

/-!
# Instruments

The markets that a venue publishes. A market whose currencies make no pair has no entry in the map
of symbols.
-/

namespace MarketDesk

open Json

structure Market where
  symbol : String
  status : String
  baseAsset : String
  quoteAsset : String
  baseAssetPrecision : UInt32
  quotePrecision : UInt32
  deriving DecidableEq

structure Instruments where
  timezone : String
  serverTime : Int64
  markets : List Market
  deriving DecidableEq

namespace Market

def fields : Fields [String, String, String, String, UInt32, UInt32] :=
  (.required "symbol" Decode.text, .required "status" Decode.text,
    .required "baseAsset" Decode.text, .required "quoteAsset" Decode.text,
    .defaulted "baseAssetPrecision" Decode.uint32 0,
    .defaulted "quotePrecision" Decode.uint32 0, ())

def decode : Decoder Market := fun json => do
  let (symbol, status, baseAsset, quoteAsset, baseAssetPrecision, quotePrecision, ()) ←
    fields.decode json
  return ⟨symbol, status, baseAsset, quoteAsset, baseAssetPrecision, quotePrecision⟩

def entry? (m : Market) : Option (String × CurrencyPair) :=
  match CurrencyPair.ofSymbols m.baseAsset m.quoteAsset with
  | .ok pair => some (m.symbol, pair)
  | .error _ => none

end Market

namespace Instruments

def fields : Fields [String, Int64, List Market] :=
  (.defaulted "timezone" Decode.text "", .defaulted "serverTime" Decode.int64 0,
    .required "symbols" (Decode.list Market.decode), ())

def decode : Decoder Instruments := fun json => do
  let (timezone, serverTime, markets, ()) ← fields.decode json
  return ⟨timezone, serverTime, markets⟩

def entries (i : Instruments) : List (String × CurrencyPair) := i.markets.filterMap Market.entry?

end Instruments

end MarketDesk

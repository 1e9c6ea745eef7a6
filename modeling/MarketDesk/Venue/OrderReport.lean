import MarketDesk.Json.Record

/-!
# Reports on orders

What the venue says of an order that it has, of one that it has just taken, and of one that it has
cancelled. An order that was only validated is answered by an empty object, so every field of its
receipt may be missing.
-/

namespace MarketDesk

open Json

structure OrderReport where
  symbol : String
  orderId : Int64
  clientOrderId : String
  price : Decimal
  orderedQuantity : Decimal
  executedQuantity : Decimal
  status : String
  timeInForce : String
  type : String
  side : String
  time : Int64
  isWorking : Bool
  deriving DecidableEq

structure Receipt where
  symbol : String
  orderId : Int64
  clientOrderId : String
  transactTime : Int64
  deriving DecidableEq

structure Cancellation where
  symbol : String
  cancelledClientOrderId : String
  orderId : Int64
  clientOrderId : String
  deriving DecidableEq

def OrderReport.fields : Fields [String, Int64, String, Decimal, Decimal, Decimal, String, String,
    String, String, Int64, Bool] :=
  (.required "symbol" Decode.text, .required "orderId" Decode.int64,
    .required "clientOrderId" Decode.text, .required "price" Decode.decimal,
    .required "origQty" Decode.decimal, .required "executedQty" Decode.decimal,
    .required "status" Decode.text, .required "timeInForce" Decode.text,
    .required "type" Decode.text, .required "side" Decode.text,
    .defaulted "time" Decode.int64 0, .defaulted "isWorking" Decode.bool false, ())

def OrderReport.decode : Decoder OrderReport := fun json => do
  let (symbol, orderId, clientOrderId, price, orderedQuantity, executedQuantity, status,
    timeInForce, type, side, time, isWorking, ()) ← OrderReport.fields.decode json
  return ⟨symbol, orderId, clientOrderId, price, orderedQuantity, executedQuantity, status,
    timeInForce, type, side, time, isWorking⟩

def OrderReport.decodeAll : Decoder (List OrderReport) := Decode.list OrderReport.decode

def Receipt.fields : Fields [String, Int64, String, Int64] :=
  (.defaulted "symbol" Decode.text "", .defaulted "orderId" Decode.int64 0,
    .defaulted "clientOrderId" Decode.text "", .defaulted "transactTime" Decode.int64 0, ())

def Receipt.decode : Decoder Receipt := fun json => do
  let (symbol, orderId, clientOrderId, transactTime, ()) ← Receipt.fields.decode json
  return ⟨symbol, orderId, clientOrderId, transactTime⟩

def Cancellation.fields : Fields [String, String, Int64, String] :=
  (.required "symbol" Decode.text, .required "origClientOrderId" Decode.text,
    .required "orderId" Decode.int64, .required "clientOrderId" Decode.text, ())

def Cancellation.decode : Decoder Cancellation := fun json => do
  let (symbol, cancelledClientOrderId, orderId, clientOrderId, ()) ← Cancellation.fields.decode json
  return ⟨symbol, cancelledClientOrderId, orderId, clientOrderId⟩

end MarketDesk

import MarketDesk.Decimal.Text
import MarketDesk.Http
import MarketDesk.Json.Decode
import MarketDesk.Venue.Error

/-!
# Orders to be placed

An order for a venue, the conditions that its type sets on its optional parts, and the parameters
that it is sent with. Numbers are sent without zeros at the end of the fraction.
-/

namespace MarketDesk

open Json

inductive OrderSide
  | buy
  | sell
  deriving DecidableEq, Repr

inductive OrderType
  | limit
  | market
  | stopLoss
  | stopLossLimit
  | takeProfit
  | takeProfitLimit
  | limitMaker
  deriving DecidableEq, Repr

/-- How long an order stays: until cancelled, at once or not at all, or whole or not at all. -/
inductive TimeInForce
  | gtc
  | ioc
  | fok
  deriving DecidableEq, Repr

namespace OrderSide

def name : OrderSide → String
  | buy => "BUY"
  | sell => "SELL"

def all : List OrderSide := [buy, sell]

def decode : Decoder OrderSide := Decode.variant (all.map fun s => (s.name, s))

end OrderSide

namespace OrderType

def name : OrderType → String
  | limit => "LIMIT"
  | market => "MARKET"
  | stopLoss => "STOP_LOSS"
  | stopLossLimit => "STOP_LOSS_LIMIT"
  | takeProfit => "TAKE_PROFIT"
  | takeProfitLimit => "TAKE_PROFIT_LIMIT"
  | limitMaker => "LIMIT_MAKER"

def all : List OrderType :=
  [limit, market, stopLoss, stopLossLimit, takeProfit, takeProfitLimit, limitMaker]

def decode : Decoder OrderType := Decode.variant (all.map fun t => (t.name, t))

def needsPrice : OrderType → Bool
  | limit | limitMaker | stopLossLimit | takeProfitLimit => true
  | market | stopLoss | takeProfit => false

def needsStopPrice : OrderType → Bool
  | stopLoss | takeProfit | stopLossLimit | takeProfitLimit => true
  | market | limit | limitMaker => false

def needsTimeInForce : OrderType → Bool
  | limit | stopLossLimit | takeProfitLimit => true
  | market | limitMaker | stopLoss | takeProfit => false

end OrderType

namespace TimeInForce

def name : TimeInForce → String
  | gtc => "GTC"
  | ioc => "IOC"
  | fok => "FOK"

def all : List TimeInForce := [gtc, ioc, fok]

def decode : Decoder TimeInForce := Decode.variant (all.map fun t => (t.name, t))

end TimeInForce

structure Order where
  symbol : String
  side : OrderSide
  type : OrderType
  timeInForce : Option TimeInForce
  quantity : Decimal
  price : Option Decimal
  clientOrderId : Option String
  stopPrice : Option Decimal
  icebergQuantity : Option Decimal
  validateOnly : Bool
  deriving DecidableEq

namespace Order

/-- A limit order that stays until it is cancelled. -/
def limit (symbol : String) (side : OrderSide) (quantity price : Decimal) : Order :=
  ⟨symbol, side, .limit, some .gtc, quantity, some price, none, none, none, false⟩

inductive Incomplete
  | quantity (value : Decimal)
  | price (type : OrderType)
  | stopPrice (type : OrderType)
  | timeInForce (type : OrderType)
  deriving DecidableEq

def Incomplete.message : Incomplete → String
  | quantity value => "quantity must be positive, got " ++ value.toText
  | price type => type.name ++ " order requires a price"
  | stopPrice type => type.name ++ " order requires a stop price"
  | timeInForce type => type.name ++ " order requires a time in force"

def check (o : Order) : Except Incomplete Unit :=
  if !o.quantity.isPositive then .error (.quantity o.quantity)
  else if o.type.needsPrice && o.price.isNone then .error (.price o.type)
  else if o.type.needsStopPrice && o.stopPrice.isNone then .error (.stopPrice o.type)
  else if o.type.needsTimeInForce && o.timeInForce.isNone then .error (.timeInForce o.type)
  else .ok ()

def validate (o : Order) : Except VenueError Unit :=
  match o.check with
  | .ok () => .ok ()
  | .error e => .error (.invalidParameters e.message)

def numberText (d : Decimal) : String := d.normalize.toText

def toParams (o : Order) : Http.Params :=
  Http.Params.empty
    |>.set "symbol" o.symbol
    |>.set "side" o.side.name
    |>.set "type" o.type.name
    |>.setIfSome "timeInForce" (o.timeInForce.map TimeInForce.name)
    |>.set "quantity" (numberText o.quantity)
    |>.setIfSome "price" (o.price.map numberText)
    |>.setIfSome "newClientOrderId" o.clientOrderId
    |>.setIfSome "stopPrice" (o.stopPrice.map numberText)
    |>.setIfSome "icebergQty" (o.icebergQuantity.map numberText)
    |>.set "newOrderRespType" "ACK"

end Order

/-- Names an order that the venue has, by the venue's number or by the client's text. -/
inductive OrderLookup
  | orderId (id : Int64)
  | clientOrderId (id : String)
  deriving DecidableEq, Repr

def OrderLookup.toParams (lookup : OrderLookup) (symbol : String) : Http.Params :=
  let params := Http.Params.empty.set "symbol" symbol
  match lookup with
  | orderId id => params.set "orderId" (Text.integerText id.toInt)
  | clientOrderId id => params.set "origClientOrderId" id

end MarketDesk

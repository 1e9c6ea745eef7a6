import MarketDesk.Json.Record
import MarketDesk.Text.Case

/-!
# Accounts

Commissions, permissions and balances of an account. An asset is found without regard to letter
case.
-/

namespace MarketDesk

open Json

structure Balance where
  asset : String
  free : Decimal
  locked : Decimal
  deriving DecidableEq

structure Account where
  makerCommission : Int64
  takerCommission : Int64
  canTrade : Bool
  canWithdraw : Bool
  canDeposit : Bool
  updateTime : Int64
  balances : List Balance
  deriving DecidableEq

namespace Balance

def fields : Fields [String, Decimal, Decimal] :=
  (.required "asset" Decode.text, .required "free" Decode.decimal,
    .required "locked" Decode.decimal, ())

def decode : Decoder Balance := fun json => do
  let (asset, free, locked, ()) ← fields.decode json
  return ⟨asset, free, locked⟩

def isZero (b : Balance) : Bool := b.free.isZero && b.locked.isZero

end Balance

namespace Account

def fields : Fields [Int64, Int64, Bool, Bool, Bool, Int64, List Balance] :=
  (.defaulted "makerCommission" Decode.int64 0, .defaulted "takerCommission" Decode.int64 0,
    .defaulted "canTrade" Decode.bool false, .defaulted "canWithdraw" Decode.bool false,
    .defaulted "canDeposit" Decode.bool false, .defaulted "updateTime" Decode.int64 0,
    .required "balances" (Decode.list Balance.decode), ())

def decode : Decoder Account := fun json => do
  let (makerCommission, takerCommission, canTrade, canWithdraw, canDeposit, updateTime,
    balances, ()) ← fields.decode json
  return ⟨makerCommission, takerCommission, canTrade, canWithdraw, canDeposit, updateTime, balances⟩

def balance? (a : Account) (asset : String) : Option Balance :=
  a.balances.find? fun b => Text.equalIgnoringCase b.asset asset

def nonZeroBalances (a : Account) : List Balance := a.balances.filter fun b => !b.isZero

end Account

end MarketDesk

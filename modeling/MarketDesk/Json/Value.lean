import MarketDesk.Dictionary
import MarketDesk.Json.Decode

/-!
# JSON values

Any JSON text nested at most 127 levels deep as a value. Integers of 64 bits are kept exactly and
all other numbers become floating-point numbers. A key that comes twice in an object has its last
value.

The floating-point number takes the leading digits that fit 64 bits and moves the point by one
multiplication or division, or by several divisions for an exponent below -308.
-/

namespace MarketDesk.Json

inductive Value
  | null
  | bool (value : Bool)
  | integer (value : Int)
  | float (value : Float)
  | string (value : String)
  | array (items : List Value)
  | object (members : List (String × Value))
  deriving Inhabited

/-- Appends digits to a number of 64 bits while they fit, and counts the digits left over. -/
def appendDigits (significand : Nat) : List Char → Nat × List Char
  | [] => (significand, [])
  | c :: rest =>
      let next := 10 * significand + (c.toNat - '0'.toNat)
      if next < UInt64.size then appendDigits next rest else (significand, c :: rest)

def powerOfTen (n : Nat) : Float := Float.ofScientific 1 false n

def divideByPower (f : Float) (n : Nat) : Float :=
  if n ≤ 308 then f / powerOfTen n
  else if f == 0.0 then f
  else divideByPower (f / powerOfTen 308) (n - 308)
  termination_by n

/-- A number of 64 bits times a power of ten, unless it is too large. -/
def scaleFloat? (significand : Nat) (exponent : Int) : Option Float :=
  let f := (UInt64.ofNat significand).toFloat
  if exponent < 0 then some (divideByPower f exponent.natAbs)
  else if f == 0.0 then some f
  else if 308 < exponent then none
  else
    let product := f * powerOfTen exponent.toNat
    if product.isInf then none else some product

def NumberToken.exponentValue (t : NumberToken) : Int :=
  match t.exponent with
  | none => 0
  | some (negative, ds) =>
      let n := Nat.ofDigitChars 10 ds 0
      if negative then -n else n

def NumberToken.float? (t : NumberToken) : Option Float :=
  let (whole, wholeRest) := appendDigits 0 t.whole
  let (significand, fractionRest) := appendDigits whole t.fraction
  let taken := t.fraction.length - fractionRest.length
  let exponent := (wholeRest.length : Int) - taken + exponentValue t
  (scaleFloat? significand exponent).map fun f => if t.negative then -f else f

def NumberToken.integer? (t : NumberToken) : Option Int :=
  if t.fraction.isEmpty && t.exponent.isNone then
    let n := Nat.ofDigitChars 10 t.whole 0
    if t.negative then (if 0 < n ∧ Int64.minValue.toInt ≤ -n then some (-n) else none)
    else if n < UInt64.size then some n else none
  else none

namespace Value

def ofNumber (t : NumberToken) : Except DecodeError Value :=
  match NumberToken.integer? t with
  | some n => .ok (.integer n)
  | none =>
      match NumberToken.float? t with
      | some f => .ok (.float f)
      | none => .error .numberOutOfRange

mutual

/-- Decodes a value nested at most as many levels deep as `depth` says. -/
def decodeWithin (depth : Nat) : Json → Except DecodeError Value
  | .null => .ok .null
  | .bool b => .ok (.bool b)
  | .number t => ofNumber t
  | .string (some s) => .ok (.string s)
  | .string none => .error .malformed
  | .array items closed =>
      match depth with
      | 0 => .error .tooDeep
      | depth + 1 =>
          match decodeItems depth items with
          | .error e => .error e
          | .ok values => if closed then .ok (.array values) else .error .malformed
  | .object members closed =>
      match depth with
      | 0 => .error .tooDeep
      | depth + 1 =>
          match decodeMembers depth [] members with
          | .error e => .error e
          | .ok members => if closed then .ok (.object members) else .error .malformed
  | .fault => .error .malformed

def decodeItems (depth : Nat) : List Json → Except DecodeError (List Value)
  | [] => .ok []
  | item :: rest =>
      match decodeWithin depth item with
      | .error e => .error e
      | .ok value => (decodeItems depth rest).map fun values => value :: values

def decodeMembers (depth : Nat) (known : List (String × Value)) :
    List (Option String × Json) → Except DecodeError (List (String × Value))
  | [] => .ok known
  | member :: rest =>
      match decodeMember depth member with
      | .error e => .error e
      | .ok (key, value) => decodeMembers depth (Dictionary.setIn key value known) rest

def decodeMember (depth : Nat) : Option String × Json → Except DecodeError (String × Value)
  | (none, _) => .error .malformed
  | (some key, value) => (decodeWithin depth value).map fun value => (key, value)

end

def decode : Decoder Value := decodeWithin 127

def member? (v : Value) (key : String) : Option Value :=
  match v with
  | .object members => Dictionary.lookupIn key members
  | _ => none

end Value

end MarketDesk.Json

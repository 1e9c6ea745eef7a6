import MarketDesk.Decimal.Text
import MarketDesk.Json.Reader

/-!
# Decoding JSON

A decoder takes a tree to a value or to the cause of the first error that a reader of the text
meets. Integers are written without a fraction or exponent, and minus zero is not one of them.
Decimals are strings. A variant of an enumeration is its name as a string, or an object with the
name as its only member and null as the value.
-/

namespace MarketDesk

inductive DecodeError
  | malformed
  | mismatch
  | tooDeep
  | numberOutOfRange
  | missingField (name : String)
  | duplicateField (name : String)
  | unknownVariant (given : String) (expected : List String)
  | rejected (reason : String)
  deriving DecidableEq, Repr

namespace DecodeError

def inBackquotes (s : String) : String := "\x60" ++ s ++ "\x60"

def alternatives : List String → String
  | [] => "there are no variants"
  | [a] => "expected " ++ inBackquotes a
  | [a, b] => "expected " ++ inBackquotes a ++ " or " ++ inBackquotes b
  | names => "expected one of " ++ ", ".intercalate (names.map inBackquotes)

def message : DecodeError → String
  | malformed => "malformed JSON"
  | mismatch => "invalid value"
  | tooDeep => "recursion limit exceeded"
  | numberOutOfRange => "number out of range"
  | missingField name => "missing field " ++ inBackquotes name
  | duplicateField name => "duplicate field " ++ inBackquotes name
  | unknownVariant given expected =>
      "unknown variant " ++ inBackquotes given ++ ", " ++ alternatives expected
  | rejected reason => reason

end DecodeError

abbrev Decoder (α : Type) := Json → Except DecodeError α

namespace Json.Decode

/-- The error for a value of the wrong kind, which may be no value at all. -/
def refuse {α : Type} : Json → Except DecodeError α
  | .fault => .error .malformed
  | .string none => .error .malformed
  | _ => .error .mismatch

def text : Decoder String
  | .string (some s) => .ok s
  | json => refuse json

def bool : Decoder Bool
  | .bool b => .ok b
  | json => refuse json

def integer : Decoder Int
  | .number ⟨negative, whole, [], none⟩ =>
      let n := Nat.ofDigitChars 10 whole 0
      if negative then (if n = 0 then .error .mismatch else .ok (-n)) else .ok n
  | json => refuse json

def integerIn (least greatest : Int) : Decoder Int := fun json => do
  let n ← integer json
  if least ≤ n ∧ n ≤ greatest then return n else throw .mismatch

def uint32 : Decoder UInt32 := fun json => do
  let n ← integerIn 0 (UInt32.size - 1) json
  return UInt32.ofNat n.toNat

def uint64 : Decoder UInt64 := fun json => do
  let n ← integerIn 0 (UInt64.size - 1) json
  return UInt64.ofNat n.toNat

def int32 : Decoder Int32 := fun json => do
  let n ← integerIn Int32.minValue.toInt Int32.maxValue.toInt json
  return Int32.ofInt n

def int64 : Decoder Int64 := fun json => do
  let n ← integerIn Int64.minValue.toInt Int64.maxValue.toInt json
  return Int64.ofInt n

def decimal : Decoder Decimal := fun json => do
  let s ← text json
  match Decimal.parse s with
  | .ok d => return d
  | .error _ => throw .mismatch

def optional {α : Type} (decode : Decoder α) : Decoder (Option α)
  | .null => .ok none
  | json => (decode json).map some

def list {α : Type} (decode : Decoder α) : Decoder (List α)
  | .array items closed => do
      let values ← items.mapM decode
      if closed then return values else throw .malformed
  | json => refuse json

def pair {α β : Type} (first : Decoder α) (second : Decoder β) : Decoder (α × β)
  | .array items closed =>
      match items with
      | [] => .error .mismatch
      | a :: items => do
          let a ← first a
          match items with
          | [] => throw .mismatch
          | b :: items => do
              let b ← second b
              if items.isEmpty && closed then return (a, b) else throw .malformed
  | json => refuse json

def lookUp {α : Type} (variants : List (String × α)) (given : String) : Except DecodeError α :=
  match variants.find? fun v => v.1 == given with
  | some v => .ok v.2
  | none => .error (.unknownVariant given (variants.map Prod.fst))

def variant {α : Type} (variants : List (String × α)) : Decoder α
  | .string (some s) => lookUp variants s
  | .object ((some name, value) :: rest) closed => do
      let v ← lookUp variants name
      match value with
      | .null => if rest.isEmpty && closed then return v else throw .malformed
      | value => refuse value
  | json => refuse json

end Json.Decode

/-- Decodes a whole text. What follows the value counts only after the value has been decoded. -/
def Decoder.run {α : Type} (decode : Decoder α) (s : String) : Except DecodeError α := do
  let document := Document.ofText s
  let value ← decode document.root
  if document.complete then return value else throw .malformed

end MarketDesk

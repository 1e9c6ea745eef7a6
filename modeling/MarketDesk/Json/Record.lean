import MarketDesk.Json.Decode

/-!
# Decoding records

A record is described by its fields in order. It is decoded from an object, whose members may come
in any order and among others that no field claims, or from an array that holds the fields in
theirs. A member is refused as a duplicate before its value is looked at, and a missing field is
noticed when the object ends.
-/

namespace MarketDesk.Json

/-- A field of a record: its name and another it answers to, how its value is decoded, and the value
that stands in for it in an object without it and in an array that ends before it. -/
structure Field (α : Type) where
  name : String
  alternative : Option String
  decode : Decoder α
  absent : Option α
  beyond : Option α

namespace Field

variable {α : Type}

def required (name : String) (decode : Decoder α) : Field α := ⟨name, none, decode, none, none⟩

def defaulted (name : String) (decode : Decoder α) (value : α) : Field α :=
  ⟨name, none, decode, some value, some value⟩

def nullable (name : String) (decode : Decoder α) : Field (Option α) :=
  ⟨name, none, Decode.optional decode, some none, none⟩

def answersTo (f : Field α) (key : String) : Bool := f.name == key || f.alternative == some key

end Field

def Fields : List Type → Type
  | [] => Unit
  | α :: αs => Field α × Fields αs

/-- The values of a record's fields as far as they have been met. -/
def Slots : List Type → Type
  | [] => Unit
  | α :: αs => Option α × Slots αs

def Row : List Type → Type
  | [] => Unit
  | α :: αs => α × Row αs

def Slots.vacant : (αs : List Type) → Slots αs
  | [] => ()
  | _ :: αs => (none, vacant αs)

namespace Fields

/-- Gives a member to the field that answers to its key. -/
def offer : (αs : List Type) → Fields αs → Slots αs → String → Json →
    Except DecodeError (Slots αs)
  | [], _, slots, _, value => if value.wellFormed then .ok slots else .error .malformed
  | _ :: αs, (field, fields), (slot, slots), key, value =>
      if field.answersTo key then
        match slot with
        | some _ => .error (.duplicateField field.name)
        | none => (field.decode value).map fun v => (some v, slots)
      else (offer αs fields slots key value).map fun slots => (slot, slots)

def absorb (αs : List Type) (fields : Fields αs) (slots : Slots αs) :
    List (Option String × Json) → Except DecodeError (Slots αs)
  | [] => .ok slots
  | (none, _) :: _ => .error .malformed
  | (some key, value) :: rest =>
      match offer αs fields slots key value with
      | .error e => .error e
      | .ok slots => absorb αs fields slots rest

def finish : (αs : List Type) → Fields αs → Slots αs → Except DecodeError (Row αs)
  | [], _, _ => .ok ()
  | _ :: αs, (field, fields), (slot, slots) =>
      match slot <|> field.absent with
      | none => .error (.missingField field.name)
      | some value => (finish αs fields slots).map fun row => (value, row)

def ofItems : (αs : List Type) → Fields αs → List Json → Except DecodeError (Row αs)
  | [], _, [] => .ok ()
  | [], _, _ :: _ => .error .malformed
  | _ :: αs, (field, fields), [] =>
      match field.beyond with
      | none => .error .mismatch
      | some value => (ofItems αs fields []).map fun row => (value, row)
  | _ :: αs, (field, fields), item :: items =>
      match field.decode item with
      | .error e => .error e
      | .ok value => (ofItems αs fields items).map fun row => (value, row)

def decode {αs : List Type} (fields : Fields αs) : Decoder (Row αs)
  | .object members closed => do
      let slots ← absorb αs fields (.vacant αs) members
      if closed then finish αs fields slots else throw .malformed
  | .array items closed => do
      let row ← ofItems αs fields items
      if closed then return row else throw .malformed
  | json => Decode.refuse json

end Fields

end MarketDesk.Json

/-!
# JSON as it is read

A JSON text is read into a tree that keeps everything up to the first fault. A value that cannot be
read is `fault`, and an array or object that broke off is not closed, so a reader of the tree meets
what stands in the text in its order and the fault in its place. Numbers keep their digits. A string
is `none` if it holds half of a surrogate pair, which is legal syntax but no text.
-/

namespace MarketDesk

structure NumberToken where
  negative : Bool
  whole : List Char
  fraction : List Char
  exponent : Option (Bool × List Char)
  deriving DecidableEq, Repr

inductive Json
  | null
  | bool (value : Bool)
  | number (token : NumberToken)
  | string (text : Option String)
  | array (items : List Json) (closed : Bool)
  | object (members : List (Option String × Json)) (closed : Bool)
  | fault

namespace Json

mutual

/-- No fault stands anywhere in the tree. -/
def wellFormed : Json → Bool
  | .array items closed => closed && wellFormedItems items
  | .object members closed => closed && wellFormedMembers members
  | .fault => false
  | _ => true

def wellFormedItems : List Json → Bool
  | [] => true
  | item :: rest => item.wellFormed && wellFormedItems rest

def wellFormedMembers : List (Option String × Json) → Bool
  | [] => true
  | member :: rest => wellFormedMember member && wellFormedMembers rest

def wellFormedMember : Option String × Json → Bool
  | (_, value) => value.wellFormed

end

end Json

/-- A JSON text: its value, and whether nothing but blanks follows it. -/
structure Document where
  root : Json
  complete : Bool

end MarketDesk

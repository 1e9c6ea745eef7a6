import MarketDesk.Json.Basic
import MarketDesk.Text.Basic

/-!
# Reading JSON

Blanks, strings and numbers come first, each as a function that gives what it has read and the rest
of the text. `readValue` puts them together; its fuel is twice the length of the text, and every two
steps take at least one character.
-/

namespace MarketDesk.Json

def isSpace (c : Char) : Bool := c == ' ' || c == '\n' || c == '\t' || c == '\r'

def skipSpace (cs : List Char) : List Char := cs.dropWhile isSpace

/-- A piece of a string: a character, or a code unit written in hexadecimal. -/
inductive StringPart
  | char (c : Char)
  | unit (n : Nat)

def escaped? : Char → Option Char
  | '"' => some '"'
  | '\\' => some '\\'
  | '/' => some '/'
  | 'b' => some '\x08'
  | 'f' => some '\x0c'
  | 'n' => some '\n'
  | 'r' => some '\r'
  | 't' => some '\t'
  | _ => none

def unit? (a b c d : Char) : Option Nat := do
  let a ← Text.hexValue? a
  let b ← Text.hexValue? b
  let c ← Text.hexValue? c
  let d ← Text.hexValue? d
  return 4096 * a + 256 * b + 16 * c + d

/-- Reads up to the closing quote; `passed` holds the parts already read, the latest first. -/
def readParts (passed : List StringPart) : List Char → Option (List StringPart × List Char)
  | [] => none
  | '"' :: rest => some (passed.reverse, rest)
  | '\\' :: 'u' :: a :: b :: c :: d :: rest =>
      match unit? a b c d with
      | some n => readParts (.unit n :: passed) rest
      | none => none
  | '\\' :: c :: rest =>
      match escaped? c with
      | some e => readParts (.char e :: passed) rest
      | none => none
  | c :: rest => if c.toNat < 0x20 then none else readParts (.char c :: passed) rest

def isHighHalf (n : Nat) : Bool := 0xD800 ≤ n && n ≤ 0xDBFF

def isLowHalf (n : Nat) : Bool := 0xDC00 ≤ n && n ≤ 0xDFFF

/-- The characters of a string, if every half of a surrogate pair has its other half beside it. -/
def joinParts (passed : List Char) : List StringPart → Option (List Char)
  | [] => some passed.reverse
  | .char c :: rest => joinParts (c :: passed) rest
  | .unit n :: .unit m :: rest =>
      if isHighHalf n && isLowHalf m then
        joinParts (Char.ofNat (0x10000 + 1024 * (n - 0xD800) + (m - 0xDC00)) :: passed) rest
      else if isHighHalf n || isLowHalf n then none
      else joinParts (Char.ofNat n :: passed) (.unit m :: rest)
  | .unit n :: rest =>
      if isHighHalf n || isLowHalf n then none else joinParts (Char.ofNat n :: passed) rest

/-- Reads a string whose opening quote has been read. -/
def readString (cs : List Char) : Option (Option String × List Char) :=
  (readParts [] cs).map fun (parts, rest) => ((joinParts [] parts).map String.ofList, rest)

def readDigits (cs : List Char) : Option (List Char × List Char) :=
  if (cs.takeWhile Char.isDigit).isEmpty then none
  else some (cs.takeWhile Char.isDigit, cs.dropWhile Char.isDigit)

def readFraction : List Char → Option (List Char × List Char)
  | '.' :: rest => readDigits rest
  | rest => some ([], rest)

def readExponent : List Char → Option (Option (Bool × List Char) × List Char)
  | [] => some (none, [])
  | c :: rest =>
      if c = 'e' ∨ c = 'E' then
        let negative := rest.head? == some '-'
        let signed := negative || rest.head? == some '+'
        (readDigits (if signed then rest.tail else rest)).map fun (ds, rest) =>
          (some (negative, ds), rest)
      else some (none, c :: rest)

def readNumber (cs : List Char) : Option (NumberToken × List Char) := do
  let negative := cs.head? == some '-'
  let (whole, rest) ← readDigits (if negative then cs.tail else cs)
  if whole.head? = some '0' ∧ 1 < whole.length then none
  let (fraction, rest) ← readFraction rest
  let (exponent, rest) ← readExponent rest
  return (⟨negative, whole, fraction, exponent⟩, rest)

mutual

/-- Reads a value and gives the text behind it, or none of it after a fault. -/
def readValue : Nat → List Char → Json × Option (List Char)
  | 0, _ => (.fault, none)
  | fuel + 1, cs =>
      match skipSpace cs with
      | '"' :: rest =>
          match readString rest with
          | some (text, rest) => (.string text, some rest)
          | none => (.fault, none)
      | '[' :: rest =>
          match skipSpace rest with
          | ']' :: rest => (.array [] true, some rest)
          | rest =>
              let (items, after) := readItems fuel rest
              (.array items after.isSome, after)
      | '{' :: rest =>
          match skipSpace rest with
          | '}' :: rest => (.object [] true, some rest)
          | rest =>
              let (members, after) := readMembers fuel rest
              (.object members after.isSome, after)
      | 'n' :: 'u' :: 'l' :: 'l' :: rest => (.null, some rest)
      | 't' :: 'r' :: 'u' :: 'e' :: rest => (.bool true, some rest)
      | 'f' :: 'a' :: 'l' :: 's' :: 'e' :: rest => (.bool false, some rest)
      | cs =>
          match readNumber cs with
          | some (token, rest) => (.number token, some rest)
          | none => (.fault, none)

def readItems : Nat → List Char → List Json × Option (List Char)
  | 0, _ => ([], none)
  | fuel + 1, cs =>
      match readValue fuel cs with
      | (item, none) => ([item], none)
      | (item, some rest) =>
          match skipSpace rest with
          | ']' :: rest => ([item], some rest)
          | ',' :: rest =>
              let (items, after) := readItems fuel rest
              (item :: items, after)
          | _ => ([item], none)

def readMembers : Nat → List Char → List (Option String × Json) × Option (List Char)
  | 0, _ => ([], none)
  | fuel + 1, cs =>
      match skipSpace cs with
      | '"' :: rest =>
          match readString rest with
          | none => ([], none)
          | some (key, rest) =>
              match skipSpace rest with
              | ':' :: rest =>
                  match readValue fuel rest with
                  | (value, none) => ([(key, value)], none)
                  | (value, some rest) =>
                      match skipSpace rest with
                      | '}' :: rest => ([(key, value)], some rest)
                      | ',' :: rest =>
                          let (members, after) := readMembers fuel rest
                          ((key, value) :: members, after)
                      | _ => ([(key, value)], none)
              | _ => ([(key, .fault)], none)
      | _ => ([], none)

end

end MarketDesk.Json

namespace MarketDesk

def Document.ofChars (cs : List Char) : Document :=
  match Json.readValue (2 * cs.length + 2) cs with
  | (root, none) => ⟨root, false⟩
  | (root, some rest) => ⟨root, (Json.skipSpace rest).isEmpty⟩

def Document.ofText (s : String) : Document := .ofChars s.toList

end MarketDesk

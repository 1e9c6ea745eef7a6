import MarketDesk.Json.Value

/-!
# Writing JSON

Values are written without blanks. In a string the quote, the backslash and the control characters
below the space are written with a backslash, five of the control characters by a letter and the
others by their code; all else stands for itself. A floating-point number is written as the integer
and the power of ten that it equals exactly, so that reading it gives the same number again.
-/

namespace MarketDesk.Json

def quoteChar (c : Char) : List Char :=
  if c = '"' then ['\\', '"']
  else if c = '\\' then ['\\', '\\']
  else if c = '\x08' then ['\\', 'b']
  else if c = '\x0c' then ['\\', 'f']
  else if c = '\n' then ['\\', 'n']
  else if c = '\r' then ['\\', 'r']
  else if c = '\t' then ['\\', 't']
  else if c.toNat < 0x20 then
    ['\\', 'u', '0', '0', Nat.digitChar (c.toNat / 16), Nat.digitChar (c.toNat % 16)]
  else [c]

def quoteChars (cs : List Char) : List Char := '"' :: cs.flatMap quoteChar ++ ['"']

/-- The integer and the power of two whose product a positive finite number is, from its bits. -/
def binaryParts (bits : Nat) : Nat × Int :=
  let exponent : Nat := (bits >>> 52) % 2048
  let fraction : Nat := bits % (1 <<< 52)
  if exponent = 0 then (fraction, -1074) else ((1 <<< 52) + fraction, (exponent : Int) - 1075)

/-- Takes factors of two out of a number, as many as `n` at most. -/
def halve (m : Nat) : Nat → Nat × Nat
  | 0 => (m, 0)
  | n + 1 => if m % 2 = 0 then halve (m / 2) n else (m, n + 1)

def floatChars (f : Float) : List Char :=
  let bits := f.toBits.toNat
  let sign := if 1 <<< 63 ≤ bits then ['-'] else []
  let (m, e) := binaryParts bits
  if m = 0 then sign ++ ['0', 'e', '0']
  else if 0 ≤ e then sign ++ Text.digits (m <<< e.toNat) ++ ['e', '0']
  else
    let (m, places) := halve m e.natAbs
    sign ++ Text.digits (m * Nat.pow 5 places) ++ ['e', '-'] ++ Text.digits places

namespace Value

mutual

def chars : Value → List Char
  | .null => ['n', 'u', 'l', 'l']
  | .bool true => ['t', 'r', 'u', 'e']
  | .bool false => ['f', 'a', 'l', 's', 'e']
  | .integer n => Text.signedDigits n
  | .float f => floatChars f
  | .string s => quoteChars s.toList
  | .array items => '[' :: [','].intercalate (itemChars items) ++ [']']
  | .object members => '\x7b' :: [','].intercalate (memberChars members) ++ ['\x7d']

def itemChars : List Value → List (List Char)
  | [] => []
  | item :: rest => item.chars :: itemChars rest

def memberChars : List (String × Value) → List (List Char)
  | [] => []
  | member :: rest => pairChars member :: memberChars rest

def pairChars : String × Value → List Char
  | (key, value) => quoteChars key.toList ++ ':' :: value.chars

end

def text (v : Value) : String := String.ofList v.chars

end Value

end MarketDesk.Json

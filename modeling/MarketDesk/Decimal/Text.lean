import MarketDesk.Decimal.Basic
import MarketDesk.Text.Basic

/-!
# Decimals as text

`toText` writes the sign and every digit after the point. `parse` reads plain notation, with low
lines between digits and a fraction rounded half up where it has more digits than a decimal can
hold, and scientific notation, which moves the point of a plain number. Plain notation gives no
negative zero; a negative number that an exponent takes below the last digit is one.
-/

namespace MarketDesk.Decimal

inductive Unreadable
  | empty
  | noDigits
  | unknownCharacter
  | twoPoints
  | leadingSeparator
  | tooManyDigits
  | roundedTooLarge
  | badExponent
  | exponentTooLarge (exponent : Nat)
  | tooLarge
  deriving DecidableEq, Repr

def Unreadable.message : Unreadable → String
  | empty => "Invalid decimal: empty"
  | noDigits => "Invalid decimal: no digits found"
  | unknownCharacter => "Invalid decimal: unknown character"
  | twoPoints => "Invalid decimal: two decimal points"
  | leadingSeparator => "Invalid decimal: must start lead with a number"
  | tooManyDigits => "Invalid decimal: overflow from too many digits"
  | roundedTooLarge => "Invalid decimal: overflow from mantissa after rounding"
  | badExponent => "Failed to parse"
  | exponentTooLarge n =>
      "Scale exceeds the maximum precision allowed: " ++ Text.natText n ++ " > 28"
  | tooLarge => "Number exceeds maximum value that can be represented."

def toChars (d : Decimal) : List Char :=
  let ds := Text.digits d.magnitude
  let padded := List.replicate (d.scale + 1 - ds.length) '0' ++ ds
  let wholeLength := padded.length - d.scale
  (if d.negative then ['-'] else []) ++ padded.take wholeLength ++
    (if d.scale = 0 then [] else '.' :: padded.drop wholeLength)

def toText (d : Decimal) : String := String.ofList d.toChars

def unexpected (c : Char) : Unreadable :=
  if c = '.' then .twoPoints else .unknownCharacter

/-- Ends a number of which `next` is the first digit that no longer fits: five and above round up.
The digits after it do not count. -/
def roundOff (coefficient scale next : Nat) (rest : List Char) : Except Unreadable (Nat × Nat) := do
  let rounded ←
    if next < 5 then .ok (coefficient, scale)
    else if coefficient + 1 < bound then .ok (coefficient + 1, scale)
    else match scale with
      | 0 => .error .roundedTooLarge
      | shorter + 1 => .ok ((coefficient + 5) / 10, shorter)
  match rest.find? (fun c => !(c.isDigit || c == '_')) with
  | some c => .error (unexpected c)
  | none => .ok rounded

/-- The least coefficient behind whose last digit a low line is passed over. Behind a smaller one a
low line after the 28th digit of the fraction ends the number, as the digit zero would. -/
def longCoefficient : Nat := 18446744073709549060

/-- Reads the coefficient and the number of digits after the point; `begun` tells whether a digit
has been read, `pointed` whether the point has. -/
def scan (begun pointed : Bool) (coefficient scale : Nat) :
    List Char → Except Unreadable (Nat × Nat)
  | [] => if begun then .ok (coefficient, scale) else .error .noDigits
  | c :: rest =>
      match Text.digit? c with
      | some d =>
          if pointed && scale == 28 then roundOff coefficient scale d rest
          else if 10 * coefficient + d < bound then
            scan true pointed (10 * coefficient + d) (if pointed then scale + 1 else scale) rest
          else if pointed then roundOff coefficient scale d rest
          else .error .tooManyDigits
      | none =>
          if c = '.' && !pointed then scan begun true coefficient scale rest
          else if c = '_' then
            if !begun then .error .leadingSeparator
            else if pointed && scale == 28 && coefficient < longCoefficient then
              roundOff coefficient scale 0 rest
            else scan begun pointed coefficient scale rest
          else .error (unexpected c)

def parsePlain (cs : List Char) : Except Unreadable Decimal := do
  if cs.isEmpty then
    throw .empty
  let negative := cs.head? == some '-'
  let signed := negative || cs.head? == some '+'
  let (coefficient, scale) ← scan false false 0 0 (if signed then cs.tail else cs)
  match ofParts? negative coefficient scale with
  | some d => return d.withoutZeroSign
  | none => throw .tooLarge

/-- The number nearest to `n / tenTo k`, the greater one of two. -/
def roundHalfUp (n k : Nat) : Nat := (n + tenTo k / 2) / tenTo k

/-- Divides by a power of ten. A result with more than 28 digits after the point is first cut to
them. -/
def shiftDown (d : Decimal) (exponent : Nat) : Except Unreadable Decimal :=
  if 28 < exponent then .error (.exponentTooLarge exponent)
  else
    let parts :=
      if d.scale + exponent ≤ 28 then ofParts? d.negative d.magnitude (d.scale + exponent)
      else ofParts? d.negative (roundHalfUp d.magnitude (d.scale + exponent - 28)) 28
    match parts with
    | some d => .ok d
    | none => .error .tooLarge

/-- Multiplies by a power of ten. The point moves to the right first and zeros follow after that. -/
def shiftUp (d : Decimal) (exponent : Nat) : Except Unreadable Decimal :=
  if 28 < exponent ∧ d.scale < exponent then .error (.exponentTooLarge exponent)
  else
    match ofParts? d.negative (d.magnitude * tenTo (exponent - d.scale)) (d.scale - exponent) with
    | some d => .ok d
    | none => .error .tooLarge

def isExponentMark (c : Char) : Bool := c == 'e' || c == 'E'

def applyExponent (d : Decimal) (cs : List Char) : Except Unreadable Decimal :=
  let negative := cs.head? == some '-'
  match Text.countUpTo? (UInt32.size - 1) (if negative then cs.tail else cs) with
  | none => .error .badExponent
  | some exponent => if negative then shiftDown d exponent else shiftUp d exponent

def parseChars (cs : List Char) : Except Unreadable Decimal :=
  match cs.dropWhile (fun c => !isExponentMark c) with
  | [] => parsePlain cs
  | _ :: exponent => do
      let d ← parsePlain (cs.takeWhile fun c => !isExponentMark c)
      applyExponent d exponent

def parse (s : String) : Except Unreadable Decimal := parseChars s.toList

/-- Why a text is not an amount of money: it is no decimal, or not above zero. -/
inductive NotPositive
  | unreadable (cause : Unreadable)
  | nonPositive (value : Decimal)

def NotPositive.message : NotPositive → String
  | unreadable cause => "Invalid decimal: " ++ cause.message
  | nonPositive value => "Value must be positive: " ++ value.toText

/-- Reads a price or a quantity: blanks at the ends do not count, and the value is above zero. -/
def parsePositive (s : String) : Except NotPositive Decimal :=
  match parseChars (Text.trim s.toList) with
  | .error e => .error (.unreadable e)
  | .ok d => if d.isPositive then .ok d else .error (.nonPositive d)

end MarketDesk.Decimal

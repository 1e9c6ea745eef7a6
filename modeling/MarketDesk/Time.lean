import MarketDesk.Text.Basic

/-!
# Dates and instants

Dates of the Gregorian calendar, carried on before its introduction and with a year zero, within the
years that can be written. The day after a date and the day before it stay within them or do not
exist. An instant is a point in time in UTC as a date, the second of the day and nanoseconds.
Nanoseconds of a thousand million and more belong to a leap second, which prolongs the last second
of a minute.

The text of an instant has the form of RFC 3339: `toText` gives UTC with the shortest of zero,
three, six or nine digits of the second's fraction that is exact. `parse?` takes any offset below a
day and is lenient: blanks may stand before numbers and marks, numbers may be short, and years of
more than four digits need a sign.
-/

namespace MarketDesk

def isLeapYear (year : Int) : Bool := year % 4 == 0 && (year % 100 != 0 || year % 400 == 0)

def daysInMonth (year : Int) (month : Nat) : Nat :=
  if month = 2 then (if isLeapYear year then 29 else 28)
  else if month = 4 ∨ month = 6 ∨ month = 9 ∨ month = 11 then 30
  else 31

def Date.Valid (year : Int) (month day : Nat) : Prop :=
  (-262143 ≤ year ∧ year ≤ 262142) ∧ (1 ≤ month ∧ month ≤ 12) ∧
    (1 ≤ day ∧ day ≤ daysInMonth year month)

instance (year : Int) (month day : Nat) : Decidable (Date.Valid year month day) :=
  inferInstanceAs (Decidable (_ ∧ _ ∧ _))

structure Date where
  year : Int
  month : Nat
  day : Nat
  valid : Date.Valid year month day
  deriving DecidableEq

namespace Date

def ofParts? (year : Int) (month day : Nat) : Option Date :=
  if h : Valid year month day then some ⟨year, month, day, h⟩ else none

def epoch : Date := ⟨1970, 1, 1, by decide⟩

instance : Inhabited Date := ⟨epoch⟩

def next? (d : Date) : Option Date :=
  if d.day < daysInMonth d.year d.month then ofParts? d.year d.month (d.day + 1)
  else if d.month < 12 then ofParts? d.year (d.month + 1) 1
  else ofParts? (d.year + 1) 1 1

def previous? (d : Date) : Option Date :=
  if 1 < d.day then ofParts? d.year d.month (d.day - 1)
  else if 1 < d.month then ofParts? d.year (d.month - 1) (daysInMonth d.year (d.month - 1))
  else ofParts? (d.year - 1) 12 31

end Date

structure Instant where
  date : Date
  second : Nat
  nano : Nat
  second_lt : second < 86400
  nano_lt : nano < 2000000000
  leap_last : 1000000000 ≤ nano → second % 60 = 59
  deriving DecidableEq

namespace Instant

def ofParts? (date : Date) (second nano : Nat) : Option Instant :=
  if h : second < 86400 ∧ nano < 2000000000 ∧ (1000000000 ≤ nano → second % 60 = 59) then
    some ⟨date, second, nano, h.1, h.2.1, h.2.2⟩
  else none

def epoch : Instant := ⟨.epoch, 0, 0, by decide, by decide, by decide⟩

instance : Inhabited Instant := ⟨epoch⟩

/-- The instant that a clock ahead of UTC by less than a day shows as the given local time. -/
def ofLocal? (date : Date) (second nano : Nat) (ahead : Int) : Option Instant :=
  let shifted := (second : Int) - ahead
  if shifted < 0 then
    date.previous?.bind fun d => ofParts? d (shifted + 86400).toNat nano
  else if shifted < 86400 then ofParts? date shifted.toNat nano
  else date.next?.bind fun d => ofParts? d (shifted - 86400).toNat nano

end Instant

end MarketDesk

namespace MarketDesk.Rfc3339

def padded (width n : Nat) : List Char :=
  let ds := Text.digits n
  List.replicate (width - ds.length) '0' ++ ds

def yearText (year : Int) : List Char :=
  if 0 ≤ year ∧ year ≤ 9999 then padded 4 year.toNat
  else (if year < 0 then '-' else '+') :: padded 4 year.natAbs

def fractionText (nano : Nat) : List Char :=
  if nano = 0 then []
  else if nano % 1000000 = 0 then '.' :: padded 3 (nano / 1000000)
  else if nano % 1000 = 0 then '.' :: padded 6 (nano / 1000)
  else '.' :: padded 9 nano

/-- A leap second is written as the second 60. -/
def toChars (t : Instant) : List Char :=
  yearText t.date.year ++ ['-'] ++ padded 2 t.date.month ++ ['-'] ++ padded 2 t.date.day ++ ['T'] ++
    padded 2 (t.second / 3600) ++ [':'] ++ padded 2 (t.second / 60 % 60) ++ [':'] ++
    padded 2 (t.second % 60 + t.nano / 1000000000) ++ fractionText (t.nano % 1000000000) ++ ['Z']

def toText (t : Instant) : String := String.ofList (toChars t)

/-- Reads digits, at least one and at most `most` of them. -/
def readNumber (most : Nat) (cs : List Char) : Option (Nat × List Char) :=
  let ds := (cs.take most).takeWhile Char.isDigit
  if ds.isEmpty then none else some (Nat.ofDigitChars 10 ds 0, cs.drop ds.length)

def readYear (cs : List Char) : Option (Int × List Char) :=
  match Text.trimStart cs with
  | '-' :: rest => (readNumber rest.length rest).map fun (n, rest) => (-(n : Int), rest)
  | '+' :: rest => (readNumber rest.length rest).map fun (n, rest) => ((n : Int), rest)
  | rest => (readNumber 4 rest).map fun (n, rest) => ((n : Int), rest)

def readPart (least greatest : Nat) (cs : List Char) : Option (Nat × List Char) :=
  match readNumber 2 (Text.trimStart cs) with
  | some (n, rest) => if least ≤ n ∧ n ≤ greatest then some (n, rest) else none
  | none => none

def readMark (mark : Char) (cs : List Char) : Option (List Char) :=
  match Text.trimStart cs with
  | [] => none
  | c :: rest => if c = mark then some rest else none

def readSeparator : List Char → Option (List Char)
  | [] => none
  | c :: rest => if c = 'T' ∨ c = 't' ∨ c = ' ' then some rest else none

/-- Reads a fraction as nanoseconds and passes over digits behind the ninth. -/
def readNano : List Char → Option (Nat × List Char)
  | '.' :: rest => do
      let (n, after) ← readNumber 9 rest
      return (n * Nat.pow 10 (9 - (rest.length - after.length)), after.dropWhile Char.isDigit)
  | rest => some (0, rest)

def readTwoDigits : List Char → Option (Nat × List Char)
  | a :: b :: rest => do
      let a ← Text.digit? a
      let b ← Text.digit? b
      return (10 * a + b, rest)
  | _ => none

/-- Reads an offset in seconds; the sign may also be the minus sign of typography. -/
def readSignedOffset : List Char → Option (Int × List Char)
  | [] => none
  | c :: rest => do
      let sign : Int ←
        if c = '+' then some 1 else if c = '-' ∨ c = '\u2212' then some (-1) else none
      let (hours, rest) ← readTwoDigits rest
      let (minutes, rest) ← readTwoDigits (rest.dropWhile fun c => c == ':' || Text.isBlank c)
      if minutes < 60 then some (sign * (3600 * hours + 60 * minutes), rest) else none

def readOffset (cs : List Char) : Option (Int × List Char) :=
  if (cs.take 3).map Char.toUpper = ['U', 'T', 'C'] then some (0, cs.drop 3)
  else if cs.head? = some 'Z' ∨ cs.head? = some 'z' then some (0, cs.tail)
  else readSignedOffset cs

def parseChars? (cs : List Char) : Option Instant := do
  let (year, cs) ← readYear cs
  let (month, cs) ← readMark '-' cs >>= readPart 1 12
  let (day, cs) ← readMark '-' cs >>= readPart 1 31
  let (hour, cs) ← readSeparator cs >>= readPart 0 23
  let (minute, cs) ← readMark ':' cs >>= readPart 0 59
  let (second, cs) ← readMark ':' cs >>= readPart 0 60
  let (nano, cs) ← readNano cs
  let (offset, cs) ← readOffset (Text.trimStart cs)
  if !(Text.trimStart cs).isEmpty || 86400 ≤ offset.natAbs then
    none
  let date ← Date.ofParts? year month day
  let leap := second - 59
  Instant.ofLocal? date (3600 * hour + 60 * minute + (second - leap)) (nano + 1000000000 * leap)
    offset

def parse? (s : String) : Option Instant := parseChars? s.toList

end MarketDesk.Rfc3339

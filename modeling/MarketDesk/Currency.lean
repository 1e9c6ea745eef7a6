import MarketDesk.Dictionary
import MarketDesk.Json.Printer
import MarketDesk.Json.Record
import MarketDesk.Text.Basic
import MarketDesk.Text.Case

/-!
# Currency pairs

An ordered pair of a base and a quote currency, made from two symbols that are not blank. A pair can
be written with any of four delimiters, in any letter case and with blanks around its symbols;
`canonical` is the spelling that all of these share. In JSON a pair is a record of its two symbols.
Decoding it applies the same conditions as making it from two symbols, once the record has been
read.

A symbol map holds the pairs that stand behind a venue's symbols, as the venue last published them.
Symbols are compared exactly; the pair is given in the case that the venue uses.
-/

namespace MarketDesk

open Json

/-- A currency symbol without the blanks at its ends, in small letters. -/
def canonicalCurrency (symbol : String) : String :=
  String.ofList (Text.lower (Text.trim symbol.toList))

def upperText (s : String) : String := String.ofList (Text.upper s.toList)

def lowerText (s : String) : String := String.ofList (Text.lower s.toList)

@[ext]
structure CurrencyPair where
  base : String
  quote : String
  deriving DecidableEq, Repr

/-- How a pair is written as one text. -/
structure PairFormat where
  delimiter : String
  uppercase : Bool
  deriving DecidableEq, Repr

def PairFormat.canonical : PairFormat := ⟨"/", false⟩

namespace CurrencyPair

inductive Invalid
  | emptySymbol
  | delimiterCount (text : String)
  deriving DecidableEq, Repr

def Invalid.message : Invalid → String
  | emptySymbol => "Invalid symbol: Base and quote currencies cannot be empty"
  | delimiterCount text => "Invalid symbol: expected exactly one delimiter in '" ++ text ++ "'"

def isDelimiter (c : Char) : Bool := c == '/' || c == '-' || c == '_' || c == ':'

def ofChars (base quote : List Char) : Except Invalid CurrencyPair :=
  let base := Text.trim base
  let quote := Text.trim quote
  if base.isEmpty || quote.isEmpty then .error .emptySymbol
  else .ok ⟨String.ofList base, String.ofList quote⟩

def ofSymbols (base quote : String) : Except Invalid CurrencyPair :=
  ofChars base.toList quote.toList

/-- Reads two symbols with exactly one delimiter between them. -/
def parse (s : String) : Except Invalid CurrencyPair :=
  let base := s.toList.takeWhile fun c => !isDelimiter c
  match s.toList.dropWhile fun c => !isDelimiter c with
  | [] => .error (.delimiterCount s)
  | _ :: quote => if quote.any isDelimiter then .error (.delimiterCount s) else ofChars base quote

def canonical (p : CurrencyPair) : CurrencyPair :=
  ⟨canonicalCurrency p.base, canonicalCurrency p.quote⟩

def display (p : CurrencyPair) : String := p.base ++ "/" ++ p.quote

def format (p : CurrencyPair) (f : PairFormat) : String :=
  let joined := p.base ++ f.delimiter ++ p.quote
  if f.uppercase then upperText joined else lowerText joined

/-- The pair in capital letters, or in its canonical form. -/
def inCase (p : CurrencyPair) (uppercase : Bool) : CurrencyPair :=
  if uppercase then ⟨upperText p.base, upperText p.quote⟩ else p.canonical

end CurrencyPair

def CurrencyPair.fields : Fields [String, String] :=
  (.required "base" Decode.text, .required "quote" Decode.text, ())

def CurrencyPair.decode : Decoder CurrencyPair := fun json => do
  let (base, quote, ()) ← CurrencyPair.fields.decode json
  match CurrencyPair.ofSymbols base quote with
  | .ok pair => return pair
  | .error e => throw (.rejected e.message)

def CurrencyPair.toJson (p : CurrencyPair) : Value :=
  .object [("base", .string p.base), ("quote", .string p.quote)]

def PairFormat.fields : Fields [String, Bool] :=
  (.required "delimiter" Decode.text, .required "uppercase" Decode.bool, ())

def PairFormat.decode : Decoder PairFormat := fun json => do
  let (delimiter, uppercase, ()) ← PairFormat.fields.decode json
  return ⟨delimiter, uppercase⟩

def PairFormat.toJson (f : PairFormat) : Value :=
  .object [("delimiter", .string f.delimiter), ("uppercase", .bool f.uppercase)]

structure SymbolMap where
  pairs : Dictionary String CurrencyPair
  deriving DecidableEq

namespace SymbolMap

def empty : SymbolMap := ⟨.empty⟩

def insert (m : SymbolMap) (symbol : String) (pair : CurrencyPair) : SymbolMap :=
  ⟨m.pairs.set symbol pair⟩

/-- The map of a newly published list, in which the last entry of a symbol counts. -/
def ofEntries (entries : List (String × CurrencyPair)) : SymbolMap := ⟨.ofList entries⟩

def resolve? (m : SymbolMap) (symbol : String) (format : PairFormat) : Option CurrencyPair :=
  (m.pairs.get? symbol).map fun p => p.inCase format.uppercase

def size (m : SymbolMap) : Nat := m.pairs.size

def isEmpty (m : SymbolMap) : Bool := m.pairs.isEmpty

end SymbolMap

end MarketDesk

/-!
# Reading UTF-8

A machine takes one byte at a time and holds what a character under way still owes. It gives a list
of pieces: a character, or `none` for a maximal run of bytes that starts a character and cannot be
completed. Strict reading accepts a text without such runs; lenient reading puts U+FFFD for each.
-/

namespace MarketDesk.Text.Utf8

/-- A character under way: its bits so far, the bytes still owed after the next, and the bounds of
the next byte. -/
structure Partial where
  bits : Nat
  owedAfter : Nat
  low : Nat
  high : Nat

abbrev Piece := Option Char

/-- The first byte of a character: a whole character, the start of a longer one, or neither. -/
def first (b : Nat) : List Piece × Option Partial :=
  if b ≤ 0x7F then ([some (Char.ofNat b)], none)
  else if 0xC2 ≤ b ∧ b ≤ 0xDF then ([], some ⟨b - 0xC0, 0, 0x80, 0xBF⟩)
  else if b = 0xE0 then ([], some ⟨0, 1, 0xA0, 0xBF⟩)
  else if b = 0xED then ([], some ⟨b - 0xE0, 1, 0x80, 0x9F⟩)
  else if 0xE1 ≤ b ∧ b ≤ 0xEF then ([], some ⟨b - 0xE0, 1, 0x80, 0xBF⟩)
  else if b = 0xF0 then ([], some ⟨0, 2, 0x90, 0xBF⟩)
  else if b = 0xF4 then ([], some ⟨b - 0xF0, 2, 0x80, 0x8F⟩)
  else if 0xF1 ≤ b ∧ b ≤ 0xF3 then ([], some ⟨b - 0xF0, 2, 0x80, 0xBF⟩)
  else ([none], none)

def step (state : Option Partial) (b : Nat) : List Piece × Option Partial :=
  match state with
  | none => first b
  | some p =>
      if p.low ≤ b ∧ b ≤ p.high then
        let bits := 64 * p.bits + (b - 0x80)
        match p.owedAfter with
        | 0 => ([some (Char.ofNat bits)], none)
        | n + 1 => ([], some ⟨bits, n, 0x80, 0xBF⟩)
      else
        let (pieces, next) := first b
        (none :: pieces, next)

def piecesFrom (state : Option Partial) : List UInt8 → List Piece
  | [] => if state.isSome then [none] else []
  | b :: rest =>
      let (pieces, next) := step state b.toNat
      pieces ++ piecesFrom next rest

def pieces (bytes : List UInt8) : List Piece := piecesFrom none bytes

def decode? (bytes : List UInt8) : Option (List Char) := (pieces bytes).mapM id

def decodeLenient (bytes : List UInt8) : List Char :=
  (pieces bytes).map fun p => p.getD '\uFFFD'

end MarketDesk.Text.Utf8

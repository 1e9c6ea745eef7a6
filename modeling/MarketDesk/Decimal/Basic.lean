/-!
# Decimals

A decimal is a sign, a magnitude below 2^96 and a scale of at most 28 digits after the point. Sign
and scale are part of the value, zero included, so `4.00` and `4`, or `-0.0` and `0`, are two
decimals of one size. `coefficient` is the magnitude with its sign; `compareSize` orders decimals by
size alone, and `normalize` drops the zeros at the end of the fraction and the sign of a zero.

A sum or a product is computed exactly and then loses the fewest digits after the point that make it
a decimal again, rounded to the nearest with ties to the even neighbour. A result too large even
without a fraction is an overflow. A sum that comes out as zero has no sign; a product that rounds
to zero keeps the sign of its factors, unless both magnitudes are of at most 32 bits.
-/

namespace MarketDesk

/-- Two to the power of 96, which a magnitude stays below. -/
def Decimal.bound : Nat := 79228162514264337593543950336

structure Decimal where
  negative : Bool
  magnitude : Nat
  scale : Nat
  magnitude_lt : magnitude < Decimal.bound
  scale_le : scale ≤ 28
  deriving DecidableEq

namespace Decimal

def ofParts? (negative : Bool) (magnitude scale : Nat) : Option Decimal :=
  if h : magnitude < bound ∧ scale ≤ 28 then some ⟨negative, magnitude, scale, h.1, h.2⟩ else none

def zero : Decimal := ⟨false, 0, 0, by decide, by decide⟩

instance : Inhabited Decimal := ⟨zero⟩

def isZero (d : Decimal) : Bool := d.magnitude == 0

def isPositive (d : Decimal) : Bool := !d.negative && !d.isZero

def coefficient (d : Decimal) : Int := if d.negative then -d.magnitude else d.magnitude

/-- A zero without its sign, and any other decimal as it is. -/
def withoutZeroSign (d : Decimal) : Decimal := { d with negative := d.negative && !d.isZero }

/-- Ten to the power of `k`: how many units of the `k`th digit after the point make one. -/
def tenTo (k : Nat) : Nat := Nat.pow 10 k

def compareSize (x y : Decimal) : Ordering :=
  compare (x.coefficient * tenTo y.scale) (y.coefficient * tenTo x.scale)

theorem coefficient_withoutZeroSign (d : Decimal) :
    d.withoutZeroSign.coefficient = d.coefficient := by
  by_cases h : d.magnitude = 0 <;> simp [withoutZeroSign, coefficient, isZero, h]

theorem isPositive_iff (d : Decimal) : d.isPositive = true ↔ 0 < d.coefficient := by
  cases hn : d.negative <;> simp [isPositive, isZero, coefficient, hn, Nat.pos_iff_ne_zero]

/-- Takes factors of ten out of a magnitude, one for each digit after the point at most. -/
def stripZeros (magnitude : Nat) : Nat → Nat × Nat
  | 0 => (magnitude, 0)
  | scale + 1 =>
      if magnitude % 10 = 0 then stripZeros (magnitude / 10) scale
      else (magnitude, scale + 1)

theorem stripZeros_le (magnitude scale : Nat) :
    (stripZeros magnitude scale).1 ≤ magnitude ∧ (stripZeros magnitude scale).2 ≤ scale := by
  induction scale generalizing magnitude with
  | zero => simp [stripZeros]
  | succ scale ih =>
    unfold stripZeros
    split
    · have := ih (magnitude / 10)
      omega
    · simp

def normalize (d : Decimal) : Decimal :=
  withoutZeroSign
    ⟨d.negative, (stripZeros d.magnitude d.scale).1, (stripZeros d.magnitude d.scale).2,
      Nat.lt_of_le_of_lt (stripZeros_le d.magnitude d.scale).1 d.magnitude_lt,
      Nat.le_trans (stripZeros_le d.magnitude d.scale).2 d.scale_le⟩

inductive Overflow
  | addition
  | multiplication
  deriving DecidableEq, Repr

def Overflow.message : Overflow → String
  | addition => "Addition overflowed"
  | multiplication => "Multiplication overflowed"

/-- The number nearest to `n / tenTo k`, the even one of two. -/
def roundEven (n k : Nat) : Nat :=
  let quotient := n / tenTo k
  let remainder := n % tenTo k
  if tenTo k < 2 * remainder ∨ tenTo k = 2 * remainder ∧ quotient % 2 = 1 then quotient + 1
  else quotient

/-- Drops the fewest digits after the point that leave a decimal. -/
def fit? (negative : Bool) (n scale : Nat) : Option Decimal :=
  (List.range (scale + 1)).findSome? fun k => ofParts? negative (roundEven n k) (scale - k)

/-- A zero adds nothing, not even its digits after the point. -/
def add (x y : Decimal) : Except Overflow Decimal :=
  if x.isZero then .ok y
  else if y.isZero then .ok x
  else
    let scale := max x.scale y.scale
    let sum := x.coefficient * tenTo (scale - x.scale) + y.coefficient * tenTo (scale - y.scale)
    match fit? (sum < 0) sum.natAbs scale with
    | some d => .ok d
    | none => .error .addition

/-- Whether both magnitudes are of at most 32 bits. -/
def areNarrow (x y : Decimal) : Bool :=
  x.magnitude < UInt32.size && y.magnitude < UInt32.size

/-- The product of two narrow decimals is a plain zero where it needs more than 47 digits after the
point. -/
def mul (x y : Decimal) : Except Overflow Decimal :=
  if x.isZero || y.isZero || areNarrow x y && 47 < x.scale + y.scale then .ok zero
  else
    match fit? (x.negative != y.negative) (x.magnitude * y.magnitude) (x.scale + y.scale) with
    | some d => .ok (if areNarrow x y then d.withoutZeroSign else d)
    | none => .error .multiplication

end Decimal

end MarketDesk

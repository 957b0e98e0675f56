import QueryCheck.Number.Digits

/-!
# Scaled decimals

Exact decimals of the warehouse: a sign, a coefficient of 96 bits and a scale of at most 28 places.
The scale is part of the number, so that `1.50` and `1.5` are written differently but compare equal.
-/

namespace QueryCheck

def roundHalfEven (numerator denominator : Nat) : Nat :=
  let quotient := numerator / denominator
  let twice := 2 * (numerator % denominator)
  if twice < denominator then quotient
  else if denominator < twice then quotient + 1
  else if quotient % 2 = 0 then quotient
  else quotient + 1

/-- Two to the power 96. -/
abbrev Decimal.coefficientBound : Nat := 79228162514264337593543950336

/-- The number `coefficient / 10 ^ scale`, negated when `negative`. -/
structure Decimal where
  negative : Bool
  coefficient : Nat
  scale : Nat
  coefficient_lt : coefficient < Decimal.coefficientBound
  scale_le : scale ≤ 28
deriving DecidableEq

namespace Decimal

def zero : Decimal :=
  ⟨false, 0, 0, by decide, by decide⟩

def isZero (d : Decimal) : Bool :=
  d.coefficient == 0

/-- The decimal with these parts, when they fit. The sign is kept even of a zero. -/
def ofSigned? (negative : Bool) (coefficient scale : Nat) : Option Decimal :=
  if fits : coefficient < coefficientBound ∧ scale ≤ 28 then
    some ⟨negative, coefficient, scale, fits.1, fits.2⟩
  else none

/-- The decimal with these parts, when they fit; a zero has no sign. -/
def ofParts? (negative : Bool) (coefficient scale : Nat) : Option Decimal :=
  ofSigned? (negative && coefficient != 0) coefficient scale

/-- The decimal nearest to `magnitude / 10 ^ scale` that loses as few places as needed to fit, a half
going to the even neighbour; none when even the whole part is too large. -/
def fit (negative : Bool) (magnitude scale : Nat) : Option Decimal :=
  (List.range (scale + 1)).findSome? fun dropped =>
    ofParts? negative (roundHalfEven magnitude (Nat.pow 10 dropped)) (scale - dropped)

def ofInt64 (n : Int64) : Decimal :=
  ⟨decide (n < 0), n.toInt.natAbs, 0,
    by
      have lower := n.le_toInt
      have upper := n.toInt_lt
      unfold coefficientBound
      omega,
    by decide⟩

def neg (d : Decimal) : Decimal :=
  { d with negative := !d.negative }

def abs (d : Decimal) : Decimal :=
  { d with negative := false }

/-- The numerator of the value over `10 ^ scale`. -/
def signed (d : Decimal) : Int :=
  if d.negative then -(d.coefficient : Int) else d.coefficient

def order (a b : Decimal) : Ordering :=
  compare (a.signed * Nat.pow 10 b.scale) (b.signed * Nat.pow 10 a.scale)

def truncate (d : Decimal) : Int :=
  let whole : Int := d.coefficient / Nat.pow 10 d.scale
  if d.negative then -whole else whole

/-- All places are written, also trailing zeros. -/
def text (d : Decimal) : List Char :=
  let digits := natText d.coefficient
  let padded := List.replicate (d.scale + 1 - digits.length) '0' ++ digits
  let whole := padded.length - d.scale
  (if d.negative then ['-'] else []) ++ padded.take whole ++
    if d.scale = 0 then [] else '.' :: padded.drop whole

end Decimal

end QueryCheck

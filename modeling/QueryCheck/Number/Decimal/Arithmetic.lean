import QueryCheck.Number.Binary64
import QueryCheck.Number.Decimal

/-!
# Arithmetic of scaled decimals

Sums and products keep every place that fits; a quotient is continued until it is exact or as long as
96 bits and 28 places allow, and an exact quotient keeps the places that the division produced.
An operation without a result has overflowed.

A decimal without places becomes the nearest double. Otherwise whole part and fraction are added as
doubles and the sum is rounded back to the places of the decimal.
-/

namespace QueryCheck.Decimal

/-- The larger scale is kept; a zero operand leaves the other one as it is. -/
def add (a b : Decimal) : Option Decimal :=
  if a.isZero then some b
  else if b.isZero then some a
  else
    let scale := max a.scale b.scale
    let sum := a.signed * Nat.pow 10 (scale - a.scale) + b.signed * Nat.pow 10 (scale - b.scale)
    fit (decide (sum < 0)) sum.natAbs scale

def sub (a b : Decimal) : Option Decimal :=
  if b.isZero then some (if a.isZero then b else a) else add a b.neg

/-- The scales add up; a zero operand gives the plain zero. So does a product of two coefficients below
`2 ^ 32` that lies beyond the forty-seventh place. -/
def mul (a b : Decimal) : Option Decimal :=
  if a.isZero || b.isZero then some zero
  else if a.coefficient < UInt32.size && b.coefficient < UInt32.size &&
      decide (47 < a.scale + b.scale) then
    some zero
  else
    fit (a.negative != b.negative) (a.coefficient * b.coefficient) (a.scale + b.scale)

/-- A long division under way: `quotient` so far with its `scale`, which is negative while whole
digits are missing, and the remainder. -/
structure LongDivision where
  quotient : Nat
  remainder : Nat
  scale : Int
  inexact : Bool
deriving Repr, DecidableEq

def LongDivision.room (state : LongDivision) : Nat :=
  let fits (places : Nat) : Bool :=
    decide (state.quotient * Nat.pow 10 places < coefficientBound ∧ state.scale + places ≤ 28)
  ((List.range 10).filter fits).getLast?.getD 0

inductive DivisionStep where
  | done (result : LongDivision)
  | more (state : LongDivision)
  | overflow

/-- The quotient rounded by the remainder, a half going to the even neighbour; when the round
overflows 96 bits one place is given up. -/
def LongDivision.rounded (state : LongDivision) (divisor : Nat) : DivisionStep :=
  let twice := 2 * state.remainder
  let up := decide (divisor < twice) || twice == divisor && state.quotient % 2 == 1
  let quotient := if up then state.quotient + 1 else state.quotient
  if quotient < coefficientBound then .done { state with quotient := quotient }
  else if state.scale = 0 then .overflow
  else .done { state with quotient := roundHalfEven quotient 10, scale := state.scale - 1 }

def LongDivision.extend (state : LongDivision) (divisor places : Nat) : DivisionStep :=
  let product := state.quotient * Nat.pow 10 places
  let dividend := state.remainder * Nat.pow 10 places
  let quotient := product + dividend / divisor
  let remainder := dividend % divisor
  let scale : Int := state.scale + places
  if coefficientBound ≤ product then .overflow
  else if quotient < coefficientBound then .more { state with quotient, remainder, scale }
  else if scale ≤ 0 then .overflow
  else
    let lost := quotient % 10
    let up := decide (5 < lost) || lost == 5 && (remainder != 0 || quotient / 10 % 2 == 1)
    .done { state with
      quotient := quotient / 10 + (if up then 1 else 0), remainder, scale := scale - 1 }

def LongDivision.step (state : LongDivision) (divisor : Nat) : DivisionStep :=
  if state.remainder = 0 then
    if 0 ≤ state.scale then .done state
    else state.extend divisor (min 9 (-state.scale).toNat)
  else
    let state : LongDivision := { state with inexact := true }
    let places := state.room
    if state.scale = 28 ∨ places = 0 ∧ 0 ≤ state.scale then state.rounded divisor
    else if places < 9 ∧ state.scale + places < 0 then .overflow
    else state.extend divisor places

/-- A quotient has at most 28 places behind at most 28 missing whole digits, so a run of single digits
ends within sixty steps. -/
def LongDivision.run (divisor : Nat) : Nat → LongDivision → Option LongDivision
  | 0, _ => none
  | steps + 1, state =>
    match state.step divisor with
    | .done result => some result
    | .more next => next.run divisor steps
    | .overflow => none

/-- The factors of ten that an inexact quotient is stripped of, largest first. -/
def stripTens (quotient scale : Nat) : Nat × Nat :=
  let eights := stripWhile 8 UInt32.size (scale / 8) quotient scale
  let fours := stripOnce 4 16 eights
  let twos := stripOnce 2 4 fours
  stripOnce 1 2 twos
where
  stripWhile (places mask : Nat) : Nat → Nat → Nat → Nat × Nat
    | 0, quotient, scale => (quotient, scale)
    | steps + 1, quotient, scale =>
      if quotient % mask = 0 ∧ places ≤ scale ∧ quotient % Nat.pow 10 places = 0 then
        stripWhile places mask steps (quotient / Nat.pow 10 places) (scale - places)
      else (quotient, scale)
  stripOnce (places mask : Nat) (state : Nat × Nat) : Nat × Nat :=
    stripWhile places mask 1 state.1 state.2

def div (a b : Decimal) : Option Decimal :=
  if a.isZero then some zero
  else
    let start : LongDivision :=
      ⟨a.coefficient / b.coefficient, a.coefficient % b.coefficient, (a.scale : Int) - b.scale, false⟩
    (start.run b.coefficient 60).bind fun result =>
      let (quotient, scale) :=
        if result.inexact then stripTens result.quotient result.scale.toNat
        else (result.quotient, result.scale.toNat)
      ofParts? (a.negative != b.negative) quotient scale

def truncatedRemainder (a b : Decimal) : Option Decimal :=
  let left := a.coefficient * Nat.pow 10 b.scale
  let right := b.coefficient * Nat.pow 10 a.scale
  if a.isZero || left == right then some zero
  else if left < right then some a
  else
    let scale := max a.scale b.scale
    ofParts? a.negative
      (a.coefficient * Nat.pow 10 (scale - a.scale) % (b.coefficient * Nat.pow 10 (scale - b.scale))) scale

def toFloat (d : Decimal) : Float :=
  let unit := Nat.pow 10 d.scale
  let whole := Float.ofNat (d.coefficient / unit)
  let fraction := d.coefficient % unit
  if fraction = 0 then
    if d.scale = 0 && d.coefficient == 0 then whole else Binary64.withSign d.negative whole
  else
    let scale := Float.ofNat unit
    let sum := whole + Float.ofNat fraction / scale
    Binary64.withSign d.negative (Binary64.roundAway (sum * scale) / scale)

end QueryCheck.Decimal

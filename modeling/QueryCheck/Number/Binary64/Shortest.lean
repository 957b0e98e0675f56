import QueryCheck.Number.Binary64

/-!
# Shortest decimals

The fewest decimal digits that read back to a given double. The reals that round to a double form an
interval whose ends belong to it exactly when the mantissa is even; on the grid of one digit, of two
digits, and so on, one of the two neighbours of the value is the first to lie in that interval.
-/

namespace QueryCheck.Binary64

/-- A decimal `digits * 10 ^ exponent`. -/
structure Decimal10 where
  digits : Nat
  exponent : Int
deriving Repr, DecidableEq

inductive Tie where
  | toEven
  | upward
deriving Repr, DecidableEq

/-- The order of `a * 10 ^ i` and `b * 2 ^ j`, found without division. -/
def compareScaled (a : Nat) (i : Int) (b : Nat) (j : Int) : Ordering :=
  compare (a * Nat.pow 10 i.toNat * Nat.pow 2 (-j).toNat) (b * Nat.pow 2 j.toNat * Nat.pow 10 (-i).toNat)

/-- Below a power of two the neighbouring value is half as far away as above it. -/
def Magnitude.narrowBelow (m : Magnitude) : Bool :=
  m.mantissa == Nat.pow 2 52 && decide (-1074 < m.exponent)

/-- The decimal lies among the reals that round to the value. -/
def Magnitude.readsBack (m : Magnitude) (d : Decimal10) : Bool :=
  let low := if m.narrowBelow then 4 * m.mantissa - 1 else 4 * m.mantissa - 2
  let high := 4 * m.mantissa + 2
  let closed := m.mantissa % 2 == 0
  let toLow := compareScaled d.digits d.exponent low (m.exponent - 2)
  let toHigh := compareScaled d.digits d.exponent high (m.exponent - 2)
  (toLow == .gt || closed && toLow == .eq) && (toHigh == .lt || closed && toHigh == .eq)

/-- The least power of ten above the value, found from an estimate that is low by at most two. -/
def Magnitude.decimalScale (m : Magnitude) : Int :=
  let bits : Int := m.mantissa.log2 + m.exponent
  let estimate := bits * 30103 / 100000
  let above (k : Int) : Bool := compareScaled 1 k m.mantissa m.exponent == .gt
  if above estimate then estimate
  else if above (estimate + 1) then estimate + 1
  else estimate + 2

/-- The neighbour of the value on the grid `10 ^ grid` that reads back, the nearer one if both do. -/
def Magnitude.onGrid (m : Magnitude) (tie : Tie) (grid : Int) : Option Decimal10 :=
  let numerator := m.mantissa * Nat.pow 2 m.exponent.toNat * Nat.pow 10 (-grid).toNat
  let denominator := Nat.pow 2 (-m.exponent).toNat * Nat.pow 10 grid.toNat
  let lower : Decimal10 := ⟨numerator / denominator, grid⟩
  let upper : Decimal10 := ⟨numerator / denominator + 1, grid⟩
  match m.readsBack lower, m.readsBack upper with
  | true, false => some lower
  | false, true => some upper
  | false, false => none
  | true, true =>
    match compare (2 * (numerator % denominator)) denominator, tie with
    | .lt, _ => some lower
    | .gt, _ => some upper
    | .eq, .upward => some upper
    | .eq, .toEven => if lower.digits % 2 = 0 then some lower else some upper

/-- The value itself as a decimal, for a value that no short decimal reads back to. -/
def Magnitude.exactDecimal (m : Magnitude) : Decimal10 :=
  if m.exponent < 0 then ⟨m.mantissa * Nat.pow 5 (-m.exponent).toNat, m.exponent⟩
  else ⟨m.mantissa * Nat.pow 2 m.exponent.toNat, 0⟩

def Decimal10.strip (d : Decimal10) : Decimal10 :=
  stripUpTo (natText d.digits).length d
where
  stripUpTo : Nat → Decimal10 → Decimal10
    | 0, d => d
    | steps + 1, d =>
      if d.digits ≠ 0 ∧ d.digits % 10 = 0 then stripUpTo steps ⟨d.digits / 10, d.exponent + 1⟩
      else d

def Magnitude.shortest (tie : Tie) (m : Magnitude) : Decimal10 :=
  let scale := m.decimalScale
  let found := (List.range 17).findSome? fun (n : Nat) => m.onGrid tie (scale - (n + 1))
  (found.getD m.exactDecimal).strip

end QueryCheck.Binary64

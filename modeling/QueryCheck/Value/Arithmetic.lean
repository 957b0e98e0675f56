import QueryCheck.Condition.EvalError
import QueryCheck.Number.Decimal.Arithmetic

/-!
# Arithmetic on values

Whole numbers become decimals beside a decimal, and both become doubles beside a double. Whole numbers
and decimals never wrap: a result that does not fit is an error. A remainder has the sign of the divisor.
Null beside anything gives null.
-/

namespace QueryCheck.Value

open Condition (Arithmetic EvalError)

/-- The remainder of the division truncated toward zero; there is none when the quotient does not fit. -/
def intRemainder (a b : Int64) : Option Int64 :=
  (int64OfInt (a.toInt.tdiv b.toInt)).map fun _ => a % b

/-- The remainder takes the sign of the divisor by adding the divisor once. -/
def intMod (a b : Int64) : Option Int64 :=
  (intRemainder a b).map fun rest =>
    if rest != 0 && decide (rest < 0) != decide (b < 0) then rest + b else rest

def checked {α : Type} (op : Arithmetic) (make : α → Value) : Option α → Except EvalError Value
  | some result => .ok (make result)
  | none => .error (.resultOutOfRange op)

@[simp] theorem checked_some {α : Type} (op : Arithmetic) (make : α → Value) (result : α) :
    checked op make (some result) = .ok (make result) :=
  rfl

@[simp] theorem checked_none {α : Type} (op : Arithmetic) (make : α → Value) :
    checked op make none = .error (.resultOutOfRange op) :=
  rfl

def intArithmetic (op : Arithmetic) (a b : Int64) : Except EvalError Value :=
  match op with
  | .add => checked op int64 (int64OfInt (a.toInt + b.toInt))
  | .sub => checked op int64 (int64OfInt (a.toInt - b.toInt))
  | .mul => checked op int64 (int64OfInt (a.toInt * b.toInt))
  | .div =>
    if b = 0 then .error .divisionByZero
    else .ok (float64 (Float.ofInt a.toInt / Float.ofInt b.toInt))
  | .mod => if b = 0 then .error .divisionByZero else checked op int64 (intMod a b)

/-- As for whole numbers, but the sum of the remainder and the divisor is rounded when it is too long. -/
def decimalMod (a b : Decimal) : Option Decimal :=
  (a.truncatedRemainder b).bind fun rest =>
    if !rest.isZero && rest.negative != b.negative then rest.add b else some rest

def decimalArithmetic (op : Arithmetic) (a b : Decimal) : Except EvalError Value :=
  match op with
  | .add => checked op numeric (a.add b)
  | .sub => checked op numeric (a.sub b)
  | .mul => checked op numeric (a.mul b)
  | .div => if b.isZero then .error .divisionByZero else checked op numeric (a.div b)
  | .mod => if b.isZero then .error .divisionByZero else checked op numeric (decimalMod a b)

def floatMod (x y : Float) : Float :=
  let rest := Binary64.remainder x y
  if rest != 0 && decide (rest < 0) != decide (y < 0) then rest + y else rest

def floatArithmetic (op : Arithmetic) (x y : Float) : Except EvalError Value :=
  match op with
  | .add => .ok (float64 (x + y))
  | .sub => .ok (float64 (x - y))
  | .mul => .ok (float64 (x * y))
  | .div => if y == 0 then .error .divisionByZero else .ok (float64 (x / y))
  | .mod => if y == 0 then .error .divisionByZero else .ok (float64 (floatMod x y))

def arithmetic (op : Arithmetic) (left right : Value) : Except EvalError Value :=
  match left, right with
  | null, _ => .ok null
  | _, null => .ok null
  | int64 a, int64 b => intArithmetic op a b
  | _, _ =>
    match left.toDecimal?, right.toDecimal? with
    | some a, some b => decimalArithmetic op a b
    | _, _ =>
      match left.toFloat?, right.toFloat? with
      | some x, some y => floatArithmetic op x y
      | _, _ =>
        match op, left, right with
        | .add, string a, string b => .ok (string (a ++ b))
        | .add, array as, array bs => .ok (array (as ++ bs))
        | _, _, _ => .error (.operands op left.kind right.kind)

def negate : Value → Except EvalError Value
  | null => .ok null
  | int64 n =>
    match int64OfInt (-n.toInt) with
    | some value => .ok (int64 value)
    | none => .error (.negationOutOfRange n)
  | float64 x => .ok (float64 (-x))
  | numeric d => .ok (numeric d.neg)
  | other => .error (.notSigned other.kind)

end QueryCheck.Value

import QueryCheck.Text.Case
import QueryCheck.Value.Arithmetic
import QueryCheck.Value.Comparison

/-!
# The value of a condition on a row

Columns are looked up in the row. `and`, `or`, `coalesce` and comparison chains stop as soon as their
result is known, and what is not reached cannot fail.
-/

namespace QueryCheck.Condition

def Literal.value : Literal → Value
  | null => .null
  | bool b => .bool b
  | integer n => .int64 n
  | float x => .float64 x
  | string text => .string text

def lengthValue (n : Nat) : Value :=
  .int64 (Int64.ofNat n)

def Builtin.apply (builtin : Builtin) (argument : Value) : Except EvalError Value :=
  match builtin, argument with
  | length, .string text => .ok (lengthValue text.length)
  | length, .bytes content => .ok (lengthValue content.length)
  | length, .array items => .ok (lengthValue items.length)
  | length, .struct fields => .ok (lengthValue fields.length)
  | absolute, .int64 n =>
    match int64OfInt n.toInt.natAbs with
    | some value => .ok (.int64 value)
    | none => .error (.absoluteOutOfRange n)
  | absolute, .float64 x => .ok (.float64 (Binary64.abs x))
  | absolute, .numeric d => .ok (.numeric d.abs)
  | lower, .string text => .ok (.string (String.ofList (Text.lower text.toList)))
  | upper, .string text => .ok (.string (String.ofList (Text.upper text.toList)))
  | _, _ => .error (.argument builtin argument.kind)

namespace Expr

mutual

def eval (row : Row) : Expr → Except EvalError Value
  | literal value => .ok value.value
  | field name =>
    match Fields.get? name row with
    | some value => .ok value
    | none => .error (.unknownField name)
  | list items => do
    let values ← evalAll row items
    .ok (.array values)
  | neg operand => do
    let value ← eval row operand
    value.negate
  | not operand => do
    let value ← eval row operand
    .ok (.bool (!value.isTruthy))
  | and left right => do
    let first ← eval row left
    if first.isTruthy then
      let second ← eval row right
      .ok (.bool second.isTruthy)
    else .ok (.bool false)
  | or left right => do
    let first ← eval row left
    if first.isTruthy then .ok (.bool true)
    else
      let second ← eval row right
      .ok (.bool second.isTruthy)
  | arithmetic op left right => do
    let first ← eval row left
    let second ← eval row right
    Value.arithmetic op first second
  | compare first links => do
    let value ← eval row first
    evalLinks row value links
  | call .coalesce arguments => evalFirst row arguments
  | call builtin [] => .error (.argumentMissing builtin)
  | call builtin (argument :: _) => do
    let value ← eval row argument
    if value.isNull then .ok .null else builtin.apply value

def evalAll (row : Row) : List Expr → Except EvalError (List Value)
  | [] => .ok []
  | item :: rest => do
    let value ← eval row item
    let values ← evalAll row rest
    .ok (value :: values)

def evalLinks (row : Row) (left : Value) : List (Comparison × Expr) → Except EvalError Value
  | [] => .ok (.bool true)
  | (op, operand) :: rest => do
    let right ← eval row operand
    let holds ← Value.compare op left right
    if holds then evalLinks row right rest else .ok (.bool false)

def evalFirst (row : Row) : List Expr → Except EvalError Value
  | [] => .ok .null
  | argument :: rest => do
    let value ← eval row argument
    if value.isNull then evalFirst row rest else .ok value

end

def holds (e : Expr) (row : Row) : Except EvalError Bool :=
  (e.eval row).map Value.isTruthy

end Expr

end QueryCheck.Condition

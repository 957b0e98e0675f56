import QueryCheck.Condition.Expression
import QueryCheck.Value

/-!
# Why a condition has no value

Each way in which an evaluation fails, the class it belongs to, and the words for it.
-/

namespace QueryCheck.Condition

inductive EvalError where
  | unknownField (name : String)
  | notOrdered (op : Comparison) (left right : Kind)
  | notText (needle : Kind)
  | notContainer (container : Kind)
  | unreadable (text : String) (kind : Kind)
  | operands (op : Arithmetic) (left right : Kind)
  | notSigned (operand : Kind)
  | argument (builtin : Builtin) (kind : Kind)
  | argumentMissing (builtin : Builtin)
  | divisionByZero
  | resultOutOfRange (op : Arithmetic)
  | negationOutOfRange (operand : Int64)
  | absoluteOutOfRange (operand : Int64)
deriving DecidableEq

inductive EvalError.Class where
  | unknownField
  | typeError
  | divisionByZero
  | overflow
deriving DecidableEq

namespace EvalError

def errorClass : EvalError → Class
  | unknownField _ => .unknownField
  | notOrdered .. => .typeError
  | notText _ => .typeError
  | notContainer _ => .typeError
  | unreadable .. => .typeError
  | operands .. => .typeError
  | notSigned _ => .typeError
  | argument .. => .typeError
  | argumentMissing _ => .typeError
  | divisionByZero => .divisionByZero
  | resultOutOfRange _ => .overflow
  | negationOutOfRange _ => .overflow
  | absoluteOutOfRange _ => .overflow

/-- What is particular to the error, without the words of its class. -/
def detail : EvalError → String
  | unknownField name => name
  | notOrdered op left right =>
    "'" ++ op.symbol ++ "' not supported between " ++ left.name ++ " and " ++ right.name
  | notText needle => "'in <STRING>' requires STRING as left operand, not " ++ needle.name
  | notContainer container => "argument of type " ++ container.name ++ " is not a container"
  | unreadable text kind => "cannot interpret '" ++ text ++ "' as " ++ kind.name
  | operands op left right =>
    "unsupported operand types for " ++ op.symbol ++ ": " ++ left.name ++ " and " ++ right.name
  | notSigned operand => "bad operand type for unary -: " ++ operand.name
  | argument builtin kind => builtin.name ++ "() does not accept " ++ kind.name
  | argumentMissing builtin => builtin.name ++ "() takes exactly one argument"
  | divisionByZero => ""
  | resultOutOfRange op => "'" ++ op.symbol ++ "' result out of range"
  | negationOutOfRange operand => "cannot negate " ++ toString operand.toInt
  | absoluteOutOfRange operand => "abs(" ++ toString operand.toInt ++ ") out of range"

def message (e : EvalError) : String :=
  match e.errorClass with
  | .unknownField => "unknown field: " ++ e.detail
  | .typeError => "type error: " ++ e.detail
  | .divisionByZero => "division by zero"
  | .overflow => "numeric overflow: " ++ e.detail

end EvalError

end QueryCheck.Condition

import QueryCheck.Calendar.Reader
import QueryCheck.Condition.EvalError
import QueryCheck.Text.Basic

/-!
# Comparing values

Whole numbers and decimals are compared exactly, and as doubles when a double is among them. Dates,
date-times and timestamps share one timeline. Text beside a temporal value is read as that type. Equality
never fails: values that cannot be compared are unequal.
-/

namespace QueryCheck.Value

open Condition (Comparison EvalError)

inductive OrderFault where
  | incomparable (left right : Kind)
  | unreadable (text : String) (kind : Kind)
deriving DecidableEq

def bytesOrder (a b : List UInt8) : Ordering :=
  List.compareLex Ord.compare (a.map UInt8.toNat) (b.map UInt8.toNat)

/-- Numbers: exactly when both are exact, else as doubles, where a NaN has no order. -/
def numberOrder? (left right : Value) : Option (Option Ordering) :=
  match left.toDecimal?, right.toDecimal? with
  | some a, some b => some (some (a.order b))
  | _, _ =>
    match left.toFloat?, right.toFloat? with
    | some x, some y => some (Binary64.order x y)
    | _, _ => none

def ofText? (kind : Kind) (text : String) : Option Value :=
  match kind with
  | .date => (Calendar.readDate? text.toList).map date
  | .datetime => (Calendar.readDateTime? text.toList).map datetime
  | .timestamp => (Calendar.readTimestamp? text.toList).map timestamp
  | .time => (Calendar.readTimeOfDay? text.toList).map time
  | _ => none

def isTemporal (v : Value) : Bool :=
  match v with
  | date _ => true
  | datetime _ => true
  | time _ => true
  | timestamp _ => true
  | _ => false

def temporalOrder? (left right : Value) : Option Ordering :=
  match left, right with
  | time a, time b => some (compare a.nanos b.nanos)
  | _, _ =>
    match left.instant?, right.instant? with
    | some a, some b => some (compare a b)
    | _, _ => none

/-- Text read as the kind of a temporal value; other values stay. -/
def coerce (v like : Value) : Except OrderFault Value :=
  match v with
  | string text =>
    if like.isTemporal then
      match ofText? like.kind text with
      | some value => .ok value
      | none => .error (.unreadable text like.kind)
    else .ok v
  | _ => .ok v

def scalarOrder (left right : Value) : Except OrderFault (Option Ordering) :=
  match left, right with
  | bool a, bool b => .ok (some (compare a.toNat b.toNat))
  | string a, string b => .ok (some (Text.order a b))
  | bytes a, bytes b => .ok (some (bytesOrder a b))
  | _, _ =>
    match numberOrder? left right with
    | some order => .ok order
    | none =>
      match coerce left right, coerce right left with
      | .error fault, _ => .error fault
      | _, .error fault => .error fault
      | .ok a, .ok b =>
        match temporalOrder? a b with
        | some order => .ok (some order)
        | none => .error (.incomparable left.kind right.kind)

mutual

/-- The order of two values; `none` for comparable values without an order. -/
def order : Value → Value → Except OrderFault (Option Ordering)
  | array as, array bs => orderItems as bs
  | a, b => scalarOrder a b

def orderItems : List Value → List Value → Except OrderFault (Option Ordering)
  | [], [] => .ok (some .eq)
  | [], _ :: _ => .ok (some .lt)
  | _ :: _, [] => .ok (some .gt)
  | a :: as, b :: bs =>
    match order a b with
    | .ok (some .eq) => orderItems as bs
    | other => other

end

def sameOrder (left right : Value) : Bool :=
  match order left right with
  | .ok (some .eq) => true
  | _ => false

mutual

def equal : Value → Value → Bool
  | null, null => true
  | null, _ => false
  | _, null => false
  | array as, array bs => equalItems as bs
  | struct as, struct bs => equalFields as bs
  | a, b => sameOrder a b

def equalItems : List Value → List Value → Bool
  | [], [] => true
  | a :: as, b :: bs => a.equal b && equalItems as bs
  | _, _ => false

def equalFields : List (String × Value) → List (String × Value) → Bool
  | [], [] => true
  | (nameA, a) :: as, (nameB, b) :: bs => nameA == nameB && a.equal b && equalFields as bs
  | _, _ => false

end

def occursIn (needle : List Char) : List Char → Bool
  | [] => needle.isEmpty
  | c :: rest => needle.isPrefixOf (c :: rest) || occursIn needle rest

/-- An array holds an equal item, or a text the needle as a part; nothing is in null. -/
def contains (container needle : Value) : Except EvalError Bool :=
  match container, needle with
  | array items, _ => .ok (items.any fun item => item.equal needle)
  | string text, string part => .ok (occursIn part.toList text.toList)
  | string _, _ => .error (.notText needle.kind)
  | null, _ => .ok false
  | _, _ => .error (.notContainer container.kind)

def OrderFault.toEvalError (op : Comparison) : OrderFault → EvalError
  | incomparable left right => .notOrdered op left right
  | unreadable text kind => .unreadable text kind

/-- An ordering comparison is false beside null and for values without an order. -/
def ordered (op : Comparison) (holds : Ordering → Bool) (left right : Value) : Except EvalError Bool :=
  if left.isNull || right.isNull then .ok false
  else
    match order left right with
    | .ok (some found) => .ok (holds found)
    | .ok none => .ok false
    | .error fault => .error (fault.toEvalError op)

def compare (op : Comparison) (left right : Value) : Except EvalError Bool :=
  match op with
  | .equal => .ok (left.equal right)
  | .identical => .ok (left.equal right)
  | .notEqual => .ok (!left.equal right)
  | .notIdentical => .ok (!left.equal right)
  | .isIn => contains right left
  | .notIn => (contains right left).map (!·)
  | .less => ordered op (· == .lt) left right
  | .lessEqual => ordered op (· != .gt) left right
  | .greater => ordered op (· == .gt) left right
  | .greaterEqual => ordered op (· != .lt) left right

end QueryCheck.Value

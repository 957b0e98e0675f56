import QueryCheck.Parameter.ScalarType
import QueryCheck.Specification.Raw

/-!
# Query parameters

A parameter with a value of its type. A date-time may be written with an offset: it is then the clock
at Greenwich at that instant.
-/

namespace QueryCheck

inductive ParameterValue where
  | string (value : String)
  | int64 (value : Int64)
  | float64 (value : Float)
  | bool (value : Bool)
  | timestamp (value : Timestamp)
  | datetime (value : DateTime)
  | date (value : Date)
deriving DecidableEq

structure Parameter where
  name : String
  type : ScalarType
  value : ParameterValue
deriving DecidableEq

inductive Unresolved where
  | unfit
  /-- The clock at Greenwich shows a year outside the calendar. -/
  | beyondCalendar
deriving DecidableEq

namespace ParameterValue

def orUnfit {α : Type} (make : α → ParameterValue) : Option α → Except Unresolved ParameterValue
  | some value => .ok (make value)
  | none => .error .unfit

def resolveDateTime (text : List Char) : Except Unresolved ParameterValue :=
  match Calendar.readDateTime? text with
  | some value => .ok (.datetime value)
  | none =>
    match Calendar.readTimestamp? text with
    | none => .error .unfit
    | some ts =>
      match ts.utcCivil? with
      | some value => .ok (.datetime value)
      | none => .error .beyondCalendar

def resolve : ScalarType → Scalar → Except Unresolved ParameterValue
  | .string, .text value => .ok (.string value)
  | .int64, .integer value => .ok (.int64 value)
  | .float64, .float value => .ok (.float64 value)
  | .bool, .bool value => .ok (.bool value)
  | .timestamp, .text value => orUnfit timestamp (Calendar.readTimestamp? value.toList)
  | .datetime, .text value => resolveDateTime value.toList
  | .date, .text value => orUnfit date (Calendar.readDate? value.toList)
  | _, _ => .error .unfit

end ParameterValue

def Parameter.resolve (type : ScalarType) (raw : RawParameter) : Except Unresolved Parameter :=
  (ParameterValue.resolve type raw.value).map fun value => ⟨raw.name, type, value⟩

end QueryCheck

import QueryCheck.Calendar.Reader
import QueryCheck.Document

/-!
# Types of query parameters
-/

namespace QueryCheck

inductive ScalarType where
  | string
  | int64
  | float64
  | bool
  | timestamp
  | datetime
  | date
deriving DecidableEq

namespace ScalarType

def name : ScalarType → String
  | string => "STRING"
  | int64 => "INT64"
  | float64 => "FLOAT64"
  | bool => "BOOL"
  | timestamp => "TIMESTAMP"
  | datetime => "DATETIME"
  | date => "DATE"

def all : List ScalarType :=
  [string, int64, float64, bool, timestamp, datetime, date]

def upperAscii (text : String) : String :=
  String.ofList (text.toList.map Char.toUpper)

def ofName? (name : String) : Option ScalarType :=
  all.find? fun type => type.name == upperAscii name

/-- Whether a value is written as the type asks. Both kinds of date with time are checked as
timestamps. -/
def accepts : ScalarType → Scalar → Bool
  | string, .text _ => true
  | int64, .integer _ => true
  | float64, .float _ => true
  | bool, .bool _ => true
  | timestamp, .text value => (Calendar.readTimestamp? value.toList).isSome
  | datetime, .text value => (Calendar.readTimestamp? value.toList).isSome
  | date, .text value => (Calendar.readDate? value.toList).isSome
  | _, _ => false

end ScalarType

end QueryCheck

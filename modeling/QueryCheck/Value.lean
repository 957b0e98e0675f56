import QueryCheck.Calendar.Timestamp
import QueryCheck.Fields
import QueryCheck.Number.Binary64
import QueryCheck.Number.Decimal.Arithmetic

/-!
# Warehouse values

What a query returns for one column of one row, and rows as columns in result order.
-/

namespace QueryCheck

inductive Kind where
  | null
  | bool
  | int64
  | float64
  | numeric
  | string
  | bytes
  | date
  | datetime
  | time
  | timestamp
  | array
  | struct
deriving DecidableEq

def Kind.name : Kind → String
  | null => "NULL"
  | bool => "BOOL"
  | int64 => "INT64"
  | float64 => "FLOAT64"
  | numeric => "NUMERIC"
  | string => "STRING"
  | bytes => "BYTES"
  | date => "DATE"
  | datetime => "DATETIME"
  | time => "TIME"
  | timestamp => "TIMESTAMP"
  | array => "ARRAY"
  | struct => "STRUCT"

inductive Value where
  | null
  | bool (value : Bool)
  | int64 (value : Int64)
  | float64 (value : Float)
  | numeric (value : Decimal)
  | string (text : String)
  | bytes (content : List UInt8)
  | date (value : Date)
  | datetime (value : DateTime)
  | time (value : TimeOfDay)
  | timestamp (value : Timestamp)
  | array (items : List Value)
  | struct (fields : List (String × Value))
deriving Inhabited

/-- Columns in result order. -/
abbrev Row := Fields Value

namespace Value

def kind : Value → Kind
  | null => .null
  | bool _ => .bool
  | int64 _ => .int64
  | float64 _ => .float64
  | numeric _ => .numeric
  | string _ => .string
  | bytes _ => .bytes
  | date _ => .date
  | datetime _ => .datetime
  | time _ => .time
  | timestamp _ => .timestamp
  | array _ => .array
  | struct _ => .struct

def isNull : Value → Bool
  | null => true
  | _ => false

/-- How a value counts where a condition is asked for: null, zero and what is empty count as false. -/
def isTruthy : Value → Bool
  | null => false
  | bool b => b
  | int64 n => n != 0
  | float64 x => x != 0
  | numeric d => !d.isZero
  | string text => !text.isEmpty
  | bytes content => !content.isEmpty
  | array items => !items.isEmpty
  | struct fields => !fields.isEmpty
  | date _ => true
  | datetime _ => true
  | time _ => true
  | timestamp _ => true

def toFloat? : Value → Option Float
  | int64 n => some (Float.ofInt n.toInt)
  | float64 x => some x
  | numeric d => some d.toFloat
  | _ => none

def toDecimal? : Value → Option Decimal
  | int64 n => some (Decimal.ofInt64 n)
  | numeric d => some d
  | _ => none

/-- The place of a date, date-time or timestamp on the timeline, dates and date-times being read at
offset zero. -/
def instant? : Value → Option Int
  | date d => some (DateTime.nanos ⟨d, TimeOfDay.midnight⟩)
  | datetime dt => some dt.nanos
  | timestamp ts => some ts.instant
  | _ => none

end Value

end QueryCheck

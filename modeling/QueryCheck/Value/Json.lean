import QueryCheck.Json
import QueryCheck.Value.Text

/-!
# Values as JSON

JSON numbers that fit 64 signed bits are INT64, all others FLOAT64. In the other direction a value
without a JSON form of its own becomes its text, bytes being written in base sixteen.
-/

namespace QueryCheck.Value

mutual

def ofJson : Json → Value
  | .null => null
  | .bool b => bool b
  | .integer n =>
    match int64OfInt n with
    | some value => int64 value
    | none => float64 (Float.ofInt n)
  | .float x => float64 x
  | .string text => string text
  | .array items => array (ofJsonItems items)
  | .object fields => struct (ofJsonFields fields)

def ofJsonItems : List Json → List Value
  | [] => []
  | item :: rest => ofJson item :: ofJsonItems rest

def ofJsonFields : List (String × Json) → List (String × Value)
  | [] => []
  | (name, value) :: rest => (name, ofJson value) :: ofJsonFields rest

end

mutual

def toJson : Value → Json
  | null => .null
  | bool b => .bool b
  | int64 n => .integer n.toInt
  | float64 x =>
    if x.isFinite then .float x else .string (String.ofList (Binary64.Layout.plain.text x))
  | numeric d => .string (String.ofList d.text)
  | string text => .string text
  | bytes content => .string (String.ofList (Text.hexText content))
  | date d => .string (String.ofList d.text)
  | datetime dt => .string (String.ofList dt.text)
  | time t => .string (String.ofList t.text)
  | timestamp ts => .string (String.ofList ts.text)
  | array items => .array (toJsonItems items)
  | struct fields => .object (toJsonFields fields)

def toJsonItems : List Value → List Json
  | [] => []
  | item :: rest => item.toJson :: toJsonItems rest

def toJsonFields : List (String × Value) → List (String × Json)
  | [] => []
  | (name, value) :: rest => (name, value.toJson) :: toJsonFields rest

end

def rowJson (row : Row) : Json :=
  (struct row).toJson

end QueryCheck.Value

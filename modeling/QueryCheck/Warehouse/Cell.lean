import QueryCheck.Calendar.Reader
import QueryCheck.Json.Printer
import QueryCheck.Number.Decimal.Arithmetic
import QueryCheck.Number.Decimal.Reader
import QueryCheck.Text.Base64
import QueryCheck.Value
import QueryCheck.Warehouse.QueryResponse

/-!
# From cells to values

A row is an object with a list of cells under `f`, one for every column, and a cell has its value under
`v`. Values are texts, structs are rows, and repeated columns are lists of cells.
-/

namespace QueryCheck.Warehouse

inductive CellFault where
  | noCells
  | cellCount (cells fields : Nat)
  | notList (field : String) (value : Json)
  | notText (field : String) (value : Json)
  | unreadable (type field text : String)

def CellFault.message : CellFault → String
  | noCells => "row without 'f' cell list"
  | cellCount cells fields =>
    "row has " ++ toString cells ++ " cells but schema has " ++ toString fields ++ " fields"
  | notList field value => "repeated field '" ++ field ++ "' is not a list: " ++ value.compact
  | notText field value => "field '" ++ field ++ "' cell is not text: " ++ value.compact
  | unreadable type field text => "invalid " ++ type ++ " value for field '" ++ field ++ "': " ++ text

/-- A decimal number of seconds since the epoch; digits below the nanosecond are cut. -/
def epochSeconds? (text : List Char) : Option Timestamp := do
  let seconds ← Decimal.read? text
  let nanos ← seconds.mul (Decimal.ofInt64 1000000000)
  Timestamp.ofCounted? nanos.truncate

/-- The types that cells may have, beside structs. -/
inductive CellType where
  | int64
  | float64
  | numeric
  | bool
  | bytes
  | timestamp
  | date
  | datetime
  | time
  /-- Any other type: its values stay texts. -/
  | text
deriving DecidableEq

def CellType.ofName (name : String) : CellType :=
  match name with
  | "INTEGER" => int64
  | "INT64" => int64
  | "FLOAT" => float64
  | "FLOAT64" => float64
  | "NUMERIC" => numeric
  | "BIGNUMERIC" => numeric
  | "BIGDECIMAL" => numeric
  | "BOOLEAN" => bool
  | "BOOL" => bool
  | "BYTES" => bytes
  | "TIMESTAMP" => timestamp
  | "DATE" => date
  | "DATETIME" => datetime
  | "TIME" => time
  | _ => text

def isStruct (typeName : String) : Bool :=
  typeName == "RECORD" || typeName == "STRUCT"

def boolOf? (text : String) : Option Bool :=
  if text = "true" then some true else if text = "false" then some false else none

def CellType.read? (type : CellType) (text : String) : Option Value :=
  let chars := text.toList
  match type with
  | int64 => (readInt64 chars).map .int64
  | float64 => (Binary64.read? chars).map .float64
  | numeric => (Decimal.read? chars).map .numeric
  | bool => (boolOf? text).map .bool
  | bytes => (Text.readBase64? chars).map .bytes
  | timestamp => (epochSeconds? chars).map .timestamp
  | date => (Calendar.readDate? chars).map .date
  | datetime => (Calendar.readDateTime? chars).map .datetime
  | time => (Calendar.readTimeOfDay? chars).map .time
  | CellType.text => some (.string text)

def cellValue (cell : Json) : Json :=
  (cell.field? "v").getD .null

def cells? (row : Json) : Option (List Json) :=
  (row.field? "f").bind Json.array?

abbrev Decoding (α : Type) := Except CellFault α

def decodeText (field : FieldSchema) (value : Json) : Decoding Value :=
  match value.string? with
  | none => .error (.notText field.name value)
  | some text =>
    match (CellType.ofName field.type).read? text with
    | some value => .ok value
    | none => .error (.unreadable field.type field.name text)

def decodeItems (decode : Json → Decoding Value) : List Json → Decoding (List Value)
  | [] => .ok []
  | item :: rest => do
    let first ← decode (cellValue item)
    let others ← decodeItems decode rest
    .ok (first :: others)

def decodeCell (field : FieldSchema) (decode : Json → Decoding Value) (value : Json) : Decoding Value :=
  if field.isRepeated then
    match value with
    | .null => .ok (.array [])
    | .array items => (decodeItems decode items).map .array
    | _ => .error (.notList field.name value)
  else decode value

mutual

def decodeValue : FieldSchema → Json → Decoding Value
  | .mk name type mode fields, value =>
    match value with
    | .null => .ok .null
    | _ =>
      if isStruct type then
        match cells? value with
        | none => .error .noCells
        | some cells =>
          if cells.length ≠ fields.length then .error (.cellCount cells.length fields.length)
          else (decodeFields fields cells).map fun pairs => .struct (Fields.ofPairs pairs)
      else decodeText (.mk name type mode fields) value

def decodeFields : List FieldSchema → List Json → Decoding (List (String × Value))
  | field :: fields, cell :: cells => do
    let value ← decodeCell field (decodeValue field) (cellValue cell)
    let others ← decodeFields fields cells
    .ok ((field.name, value) :: others)
  | _, _ => .ok []

end

/-- The row of a record with as many cells as there are columns. -/
def decodeRow (fields : List FieldSchema) (record : Json) : Decoding Row :=
  match cells? record with
  | none => .error .noCells
  | some cells =>
    if cells.length ≠ fields.length then .error (.cellCount cells.length fields.length)
    else (decodeFields fields cells).map Fields.ofPairs

end QueryCheck.Warehouse

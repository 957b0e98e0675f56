import QueryCheck.Json.Reader

/-!
# What the warehouse answers

An answer is an object. Unknown names are passed over, a name that is given twice and a value of another
type are refused, and null is taken only for what may be missing. An array is read as the values of the
object's fields in their order.
-/

namespace QueryCheck.Warehouse

structure JobReference where
  id : Option String
  location : Option String
deriving DecidableEq

def JobReference.unknown : JobReference :=
  ⟨none, none⟩

inductive FieldSchema where
  | mk (name type : String) (mode : Option String) (fields : List FieldSchema)

namespace FieldSchema

def name : FieldSchema → String
  | mk name .. => name

def type : FieldSchema → String
  | mk _ type .. => type

def mode : FieldSchema → Option String
  | mk _ _ mode _ => mode

def fields : FieldSchema → List FieldSchema
  | mk _ _ _ fields => fields

def isRepeated (field : FieldSchema) : Bool :=
  field.mode == some "REPEATED"

end FieldSchema

structure QueryResponse where
  jobComplete : Bool
  job : Option JobReference
  schema : Option (List FieldSchema)
  rows : List Json
  pageToken : Option String
  totalRows : Option String

namespace QueryResponse

/-! ## Objects with known fields -/

/-- The value of a known field, if it is given once; refused when it is given more often. -/
def single (name : String) (fields : List (String × Json)) : Option (Option Json) :=
  match fields.filter fun field => field.1 == name with
  | [] => some none
  | [(_, value)] => some (some value)
  | _ => none

/-- The values of the known fields in order, from an object or from an array that has as many items, the
last `optional` of which may be missing. -/
def fieldValues (names : List String) (optional : Nat) : Json → Option (List (Option Json))
  | .object fields => names.mapM fun name => single name fields
  | .array items =>
    if names.length - optional ≤ items.length ∧ items.length ≤ names.length then
      some (items.map some ++ List.replicate (names.length - items.length) none)
    else none
  | _ => none

def nullable {α : Type} (read : Json → Option α) : Option Json → Option (Option α)
  | none => some none
  | some .null => some none
  | some value => (read value).map some

def orDefault {α : Type} (read : Json → Option α) (default : α) : Option Json → Option α
  | none => some default
  | some value => read value

def bool? : Json → Option Bool
  | .bool b => some b
  | _ => none

/-! ## Parts -/

def jobOf? (json : Json) : Option JobReference := do
  match ← fieldValues ["jobId", "location"] 0 json with
  | [id, location] =>
    some ⟨← nullable Json.string? id, ← nullable Json.string? location⟩
  | _ => none

def fieldOf? : Nat → Json → Option FieldSchema
  | 0, _ => none
  | depth + 1, json => do
    match ← fieldValues ["name", "type", "mode", "fields"] 2 json with
    | [some name, some type, mode, fields] =>
      some (.mk (← name.string?) (← type.string?) (← nullable Json.string? mode)
        (← orDefault (fun items => items.array?.bind fun list => list.mapM (fieldOf? depth)) [] fields))
    | _ => none

def maxDepth : Nat := 127

def schemaOf? (json : Json) : Option (List FieldSchema) := do
  match ← fieldValues ["fields"] 1 json with
  | [fields] =>
    orDefault (fun items => items.array?.bind fun list => list.mapM (fieldOf? maxDepth)) [] fields
  | _ => none

def rowsOf? (json : Json) : Option (List Json) :=
  json.array?.map fun rows => rows.map Json.merged

def ofJson? (json : Json) : Option QueryResponse := do
  match ← fieldValues ["jobComplete", "jobReference", "schema", "rows", "pageToken", "totalRows"] 0
      json with
  | [complete, job, schema, rows, token, total] =>
    some ⟨← orDefault bool? false complete, ← nullable jobOf? job, ← nullable schemaOf? schema,
      ← orDefault rowsOf? [] rows, ← nullable Json.string? token, ← nullable Json.string? total⟩
  | _ => none

def read? (body : String) : Option QueryResponse :=
  (Json.readWritten? maxDepth body.toList).bind ofJson?

end QueryResponse

end QueryCheck.Warehouse

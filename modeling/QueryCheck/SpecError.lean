import QueryCheck.Json
import QueryCheck.Location

/-!
# Errors in a specification

What the two stages of validation report: the stage, a message, and the place in the document.
-/

namespace QueryCheck

/-- A shape that is wrong, or a value that is wrong in a document of the right shape. -/
inductive Stage where
  | schema
  | value
deriving DecidableEq

def Stage.name : Stage → String
  | schema => "SchemaError"
  | value => "ValueError"

def Stage.ofName? (name : String) : Option Stage :=
  [schema, value].find? fun stage => stage.name == name

structure SpecError where
  stage : Stage
  message : String
  location : Option Location
deriving DecidableEq

namespace SpecError

def text (e : SpecError) : String :=
  match e.location with
  | some place => e.stage.name ++ " " ++ place.text ++ ": " ++ e.message
  | none => e.stage.name ++ ": " ++ e.message

def locationJson (place : Location) : Json :=
  Json.texts place.segments

/-- All fields, the location being null when there is none. -/
def toJson (e : SpecError) : Json :=
  .object [("error_type", .string e.stage.name), ("message", .string e.message),
    ("resource_path", Json.ofOption locationJson e.location)]

/-- The fields that are present. -/
def toStoredJson (e : SpecError) : Json :=
  .object ([("error_type", .string e.stage.name), ("message", .string e.message)] ++
    match e.location with
    | some place => [("resource_path", locationJson place)]
    | none => [])

def locationOfJson? : Json → Option (Option Location)
  | .null => some none
  | .array items => (items.mapM Json.string?).map fun segments => some ⟨segments⟩
  | _ => none

def ofJson? (json : Json) : Option SpecError := do
  let stage ← Stage.ofName? (← (← json.field? "error_type").string?)
  let message ← (← json.field? "message").string?
  let location ← locationOfJson? ((json.field? "resource_path").getD .null)
  some ⟨stage, message, location⟩

end SpecError

structure Located (α : Type) where
  fault : α
  location : Location

def Located.toError {α : Type} (stage : Stage) (message : α → String) (found : Located α) : SpecError :=
  ⟨stage, message found.fault, some found.location⟩

end QueryCheck

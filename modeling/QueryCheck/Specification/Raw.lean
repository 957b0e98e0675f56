import QueryCheck.Document
import QueryCheck.Specification.SchemaFault

/-!
# Specifications as written

The typed form of a document, before parameter types are resolved and conditions are read. The
conversion stops at the first part that has another shape.
-/

namespace QueryCheck

structure RawParameter where
  typeName : String
  name : String
  value : Scalar
deriving DecidableEq

structure RawCase where
  guards : List String
  expected : List String
deriving DecidableEq

structure RawSpec where
  queryPath : String
  parameters : List RawParameter
  columns : List String
  invariants : List String
  cases : List RawCase
deriving DecidableEq

namespace RawSpec

abbrev Conversion (α : Type) := Except SchemaDefect α

def required {α : Type} (fault : SchemaFault) (place : Location) : Option α → Conversion α
  | some value => .ok value
  | none => .error ⟨fault, place⟩

def sequenceItems (doc : Document) (place : Location) : Conversion (List Document) :=
  required .notSequence place doc.items?

def sequenceOf {α : Type} (key : String) (convert : Document → Location → Conversion α)
    (doc : Document) (place : Location) : Conversion (List α) := do
  let items ← sequenceItems doc (place.valueOf key)
  Location.convertElements convert (place.child key) 0 items

def optionalSequence {α : Type} (key : String) (convert : Document → Location → Conversion α)
    (doc : Document) (place : Location) : Conversion (List α) :=
  match doc.get? key with
  | some value => sequenceOf key convert value place
  | none => .ok []

def textItem (container : String) (doc : Document) (place : Location) : Conversion String :=
  required (.mistyped ("element of " ++ container) .text) place.value doc.text?

def optionalTexts (key : String) (doc : Document) (place : Location) : Conversion (List String) :=
  optionalSequence key (textItem key) doc place

def caseTexts (key : String) (doc : Document) (place : Location) : Conversion (List String) := do
  let value ← required (.missingIn "case" key) place (doc.get? key)
  sequenceOf key (textItem key) value place

def caseOf (doc : Document) (place : Location) : Conversion RawCase := do
  let guards ← caseTexts "where" doc place
  let expected ← caseTexts "expected" doc place
  .ok ⟨guards, expected⟩

def parameterText (key : String) (doc : Document) (place : Location) : Conversion String :=
  required (.missingIn "param" key) place ((doc.get? key).bind Document.text?)

def parameterOf (doc : Document) (place : Location) : Conversion RawParameter := do
  let value ← required (.missingIn "param" "value") place ((doc.get? "value").bind Document.scalar?)
  let typeName ← parameterText "type" doc place
  let name ← parameterText "name" doc place
  .ok ⟨typeName, name, value⟩

def ofDocument (doc : Document) : Conversion RawSpec := do
  let place := Location.root
  let _ ← required (.mistyped "top level object" .mapping) place.value doc.entries?
  let queryPath ← required (.missing "query_path") place ((doc.get? "query_path").bind Document.text?)
  let parameters ← optionalSequence "params" parameterOf doc place
  let columns ← optionalTexts "columns" doc place
  let invariants ← optionalTexts "invariants" doc place
  let cases ← optionalSequence "cases" caseOf doc place
  .ok ⟨queryPath, parameters, columns, invariants, cases⟩

/-- All conditions: the invariants, then guards and expectations case by case. -/
def conditionTexts (raw : RawSpec) : List String :=
  raw.invariants ++ raw.cases.flatMap fun item => item.guards ++ item.expected

end RawSpec

end QueryCheck

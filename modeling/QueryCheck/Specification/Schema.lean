import QueryCheck.Document
import QueryCheck.Specification.SchemaFault

/-!
# The shape of a specification

All defects of a document are found, in the order query path, parameters, columns, invariants, cases,
a document without checks, unknown keys. Only a top level that is no mapping hides what is below it.
-/

namespace QueryCheck.Schema

def topKeys : List String :=
  ["query_path", "params", "columns", "cases", "invariants"]

def parameterKeys : List String :=
  ["type", "name", "value"]

def caseKeys : List String :=
  ["where", "expected"]

def elementOf (container : String) : String :=
  "element of " ++ container

def unknownKeys (known : List String) (entries : List (String × Document)) (place : Location) :
    List SchemaDefect :=
  (entries.filter fun entry => !known.contains entry.1).map fun entry =>
    ⟨.unknownKey entry.1, place.keyOf entry.1⟩

def sequenceDefects (key : String) (check : Document → Location → List SchemaDefect) (doc : Document)
    (place : Location) : List SchemaDefect :=
  match doc.items? with
  | none => [⟨.mistyped key .sequence, place.valueOf key⟩]
  | some items => Location.collectElements check (place.child key) 0 items

def textElement (container : String) (doc : Document) (place : Location) : List SchemaDefect :=
  match doc.text? with
  | none => [⟨.mistyped (elementOf container) .text, place.value⟩]
  | some _ => []

def textsDefects (container : String) (doc : Document) (place : Location) : List SchemaDefect :=
  sequenceDefects container (textElement container) doc place

def optionalKey (key : String) (check : Document → List SchemaDefect) (doc : Document) :
    List SchemaDefect :=
  match doc.get? key with
  | none => []
  | some value => check value

def requiredKey (part key : String) (check : Document → List SchemaDefect) (doc : Document)
    (place : Location) : List SchemaDefect :=
  match doc.get? key with
  | none => [⟨.missingIn part key, place⟩]
  | some value => check value

def textDefects (key : String) (place : Location) (doc : Document) : List SchemaDefect :=
  match doc.text? with
  | none => [⟨.mistyped key .text, place.valueOf key⟩]
  | some _ => []

def scalarDefects (key : String) (place : Location) (doc : Document) : List SchemaDefect :=
  match doc.scalar? with
  | none => [⟨.mistyped key .scalar, place.valueOf key⟩]
  | some _ => []

def parameterDefects (doc : Document) (place : Location) : List SchemaDefect :=
  match doc.entries? with
  | none => [⟨.mistyped "param" .mapping, place⟩]
  | some entries =>
    requiredKey "param" "type" (textDefects "type" place) doc place ++
      requiredKey "param" "name" (textDefects "name" place) doc place ++
      requiredKey "param" "value" (scalarDefects "value" place) doc place ++
      unknownKeys parameterKeys entries place

def caseDefects (doc : Document) (place : Location) : List SchemaDefect :=
  match doc.entries? with
  | none => [⟨.mistyped "case" .mapping, place.value⟩]
  | some entries =>
    requiredKey "case" "where" (fun value => textsDefects "where" value place) doc place ++
      requiredKey "case" "expected" (fun value => textsDefects "expected" value place) doc place ++
      unknownKeys caseKeys entries place

def queryPathDefects (doc : Document) (place : Location) : List SchemaDefect :=
  match doc.get? "query_path" with
  | none => [⟨.missing "query_path", place⟩]
  | some value => textDefects "query_path" place value

def defects (doc : Document) : List SchemaDefect :=
  let place := Location.root
  match doc.entries? with
  | none => [⟨.mistyped "top level object" .mapping, place.value⟩]
  | some entries =>
    queryPathDefects doc place ++
      optionalKey "params" (fun value => sequenceDefects "params" parameterDefects value place) doc ++
      optionalKey "columns" (fun value => textsDefects "columns" value place) doc ++
      optionalKey "invariants" (fun value => textsDefects "invariants" value place) doc ++
      optionalKey "cases" (fun value => sequenceDefects "cases" caseDefects value place) doc ++
      (if doc.hasKey "cases" || doc.hasKey "invariants" then [] else [⟨.nothingToCheck, place⟩]) ++
      unknownKeys topKeys entries place

def errors (doc : Document) : List SpecError :=
  (defects doc).map SchemaDefect.toError

end QueryCheck.Schema

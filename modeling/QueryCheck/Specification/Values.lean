import QueryCheck.Condition.Parser
import QueryCheck.FileSystem
import QueryCheck.Parameter.ScalarType
import QueryCheck.Specification.Raw
import QueryCheck.Specification.ValueFault

/-!
# The values of a specification

The query file is there, every parameter has a known type and a value of it, every condition can be
read. All defects are found, in this order.
-/

namespace QueryCheck.Values

def queryFileDefects (files : FileSystem) (path : String) (place : Location) : List ValueDefect :=
  match files.find path with
  | .error _ => [⟨.noFile path, place⟩]
  | .ok (.directory _) => [⟨.directory path, place⟩]
  | .ok .device => [⟨.notRegular path, place⟩]
  | .ok (.file _) => []

def parameterDefects (raw : RawParameter) (place : Location) : List ValueDefect :=
  match ScalarType.ofName? raw.typeName with
  | none => [⟨.unsupportedType raw.typeName, place.value⟩]
  | some type => if type.accepts raw.value then [] else [⟨.unfitValue raw.typeName, place.value⟩]

def conditionDefects (source : String) (place : Location) : List ValueDefect :=
  match Condition.parse source with
  | .error e => [⟨.condition e, place.value⟩]
  | .ok _ => []

def conditionsDefects (key : String) (sources : List String) (place : Location) : List ValueDefect :=
  Location.collectElements conditionDefects (place.child key) 0 sources

def caseDefects (raw : RawCase) (place : Location) : List ValueDefect :=
  conditionsDefects "where" raw.guards place ++ conditionsDefects "expected" raw.expected place

/-- The defects that do not depend on files. -/
def contentDefects (raw : RawSpec) (base : Location) : List ValueDefect :=
  Location.collectElements parameterDefects (base.child "params") 0 raw.parameters ++
    conditionsDefects "invariants" raw.invariants base ++
    Location.collectElements caseDefects (base.child "cases") 0 raw.cases

def defects (files : FileSystem) (raw : RawSpec) (base : Location) : List ValueDefect :=
  queryFileDefects files raw.queryPath (base.valueOf "query_path") ++ contentDefects raw base

def errors (files : FileSystem) (raw : RawSpec) (base : Location) : List SpecError :=
  (defects files raw base).map ValueDefect.toError

end QueryCheck.Values

import QueryCheck.Condition.Evaluation
import QueryCheck.Condition.Parser
import QueryCheck.Parameter
import QueryCheck.Specification.ValueFault

/-!
# Executable specifications

Parameters with values of their types, and conditions with their trees. A specification is built from
its written form part by part, up to the first part that cannot be resolved.
-/

namespace QueryCheck

structure Check where
  source : String
  tree : Condition.Expr

namespace Check

def read (source : String) : Except Condition.ParseError Check :=
  (Condition.parse source).map fun tree => ⟨source, tree⟩

def holds (check : Check) (row : Row) : Except Condition.EvalError Bool :=
  check.tree.holds row

end Check

/-- Every row on which all guards hold is expected to meet the other checks. -/
structure GuardedCase where
  guards : List Check
  expected : List Check

structure Specification where
  queryPath : String
  parameters : List Parameter
  columns : List String
  invariants : List Check
  cases : List GuardedCase

inductive Obstacle where
  | defect (found : ValueDefect)
  | beyondCalendar

namespace Specification

abbrev Building (α : Type) := Except Obstacle α

def buildParameter (raw : RawParameter) (place : Location) : Building Parameter :=
  match ScalarType.ofName? raw.typeName with
  | none => .error (.defect ⟨.unsupportedType raw.typeName, place.value⟩)
  | some type =>
    match Parameter.resolve type raw with
    | .ok parameter => .ok parameter
    | .error .unfit => .error (.defect ⟨.unfitValue raw.typeName, place.value⟩)
    | .error .beyondCalendar => .error .beyondCalendar

def buildCheck (source : String) (place : Location) : Building Check :=
  match Check.read source with
  | .ok check => .ok check
  | .error e => .error (.defect ⟨.condition e, place.value⟩)

def buildCase (raw : RawCase) (place : Location) : Building GuardedCase := do
  let guards ← Location.convertElements buildCheck (place.child "where") 0 raw.guards
  let expected ← Location.convertElements buildCheck (place.child "expected") 0 raw.expected
  .ok ⟨guards, expected⟩

def build (raw : RawSpec) : Building Specification := do
  let place := Location.root
  let parameters ← Location.convertElements buildParameter (place.child "params") 0 raw.parameters
  let invariants ← Location.convertElements buildCheck (place.child "invariants") 0 raw.invariants
  let cases ← Location.convertElements buildCase (place.child "cases") 0 raw.cases
  .ok ⟨raw.queryPath, parameters, raw.columns, invariants, cases⟩

/-- All checks: the invariants, then guards and expectations case by case. -/
def checks (spec : Specification) : List Check :=
  spec.invariants ++ spec.cases.flatMap fun item => item.guards ++ item.expected

def guardTexts (spec : Specification) : List (List String) :=
  spec.cases.map fun item => item.guards.map Check.source

end Specification

end QueryCheck

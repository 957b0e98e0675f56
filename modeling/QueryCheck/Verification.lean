import QueryCheck.RowSource
import QueryCheck.Specification

/-!
# Checking rows against a specification

Every row has to meet all invariants, and the expectations of every case whose guards it meets. The rows
that do not are listed with the conditions that they break. Checking ends at the first row that cannot be
had and at the first condition that has no value.
-/

namespace QueryCheck

structure RowFailure where
  index : Nat
  row : Row
  failed : List String

/-- Columns of the first row that the specification does not name. -/
structure UnknownColumns where
  row : Row
  names : List String

structure Verification where
  unknownColumns : Option UnknownColumns
  invariantFailures : List RowFailure
  /-- One list for every case. -/
  caseFailures : List (List RowFailure)
  rowsChecked : Nat

inductive VerifyError where
  | rows (index : Nat) (error : QueryError)
  | eval (index : Nat) (condition : String) (error : Condition.EvalError)
deriving DecidableEq

namespace VerifyError

def index : VerifyError → Nat
  | rows index _ => index
  | eval index .. => index

def message : VerifyError → String
  | rows index error => "fetching row " ++ toString index ++ ": " ++ error.message
  | eval index condition error =>
    "row " ++ toString index ++ ": condition '" ++ condition ++ "': " ++ error.message

end VerifyError

def UnknownColumns.messages (unknown : UnknownColumns) : List String :=
  unknown.names.map ("unknown column: " ++ ·)

namespace Verification

def failureCount (v : Verification) : Nat :=
  v.invariantFailures.length + v.caseFailures.flatten.length

def isSuccess (v : Verification) : Bool :=
  v.invariantFailures.isEmpty && v.caseFailures.all List.isEmpty

/-! ## One row -/

def checkHolds (index : Nat) (row : Row) (check : Check) : Except VerifyError Bool :=
  match check.holds row with
  | .ok holds => .ok holds
  | .error e => .error (.eval index check.source e)

def failedChecks (index : Nat) (row : Row) : List Check → Except VerifyError (List String)
  | [] => .ok []
  | check :: rest => do
    let holds ← checkHolds index row check
    let failed ← failedChecks index row rest
    .ok (if holds then failed else check.source :: failed)

/-- Guards after the first one that does not hold are not evaluated. -/
def guardsHold (index : Nat) (row : Row) : List Check → Except VerifyError Bool
  | [] => .ok true
  | check :: rest => do
    let holds ← checkHolds index row check
    if holds then guardsHold index row rest else .ok false

/-- The expectations that a row breaks; none when the case does not apply to it. -/
def failedExpectations (index : Nat) (row : Row) (guarded : GuardedCase) :
    Except VerifyError (List String) := do
  let applies ← guardsHold index row guarded.guards
  if applies then failedChecks index row guarded.expected else .ok []

def failedByCase (index : Nat) (row : Row) : List GuardedCase → Except VerifyError (List (List String))
  | [] => .ok []
  | guarded :: rest => do
    let failed ← failedExpectations index row guarded
    let others ← failedByCase index row rest
    .ok (failed :: others)

structure RowOutcome where
  index : Nat
  row : Row
  invariants : List String
  cases : List (List String)

def checkRow (spec : Specification) (index : Nat) (row : Row) : Except VerifyError RowOutcome := do
  let invariants ← failedChecks index row spec.invariants
  let cases ← failedByCase index row spec.cases
  .ok ⟨index, row, invariants, cases⟩

/-! ## All rows -/

def checkFrom {σ : Type} (spec : Specification) (source : RowSource σ) :
    Nat → Nat → σ → Except VerifyError (List RowOutcome) × σ
  | 0, _, s => (.ok [], s)
  | steps + 1, index, s =>
    match source.next s with
    | (none, s) => (.ok [], s)
    | (some (.error e), s) => (.error (.rows index e), s)
    | (some (.ok row), s) =>
      match checkRow spec index row with
      | .error e => (.error e, s)
      | .ok outcome =>
        match checkFrom spec source steps (index + 1) s with
        | (.ok others, s) => (.ok (outcome :: others), s)
        | (.error e, s) => (.error e, s)

def unknownColumns? (columns : List String) (row : Row) : Option UnknownColumns :=
  let names := (Fields.names row).filter fun name => !columns.contains name
  if names.isEmpty then none else some ⟨row, names⟩

def RowOutcome.failure? (outcome : RowOutcome) (failed : List String) : Option RowFailure :=
  if failed.isEmpty then none else some ⟨outcome.index, outcome.row, failed⟩

def invariantFailure? (outcome : RowOutcome) : Option RowFailure :=
  outcome.failure? outcome.invariants

def caseFailure? (number : Nat) (outcome : RowOutcome) : Option RowFailure :=
  (outcome.cases[number]?).bind outcome.failure?

def ofOutcomes (spec : Specification) (outcomes : List RowOutcome) : Verification where
  unknownColumns := outcomes.head?.bind fun outcome => unknownColumns? spec.columns outcome.row
  invariantFailures := outcomes.filterMap invariantFailure?
  caseFailures := (List.range spec.cases.length).map fun number =>
    outcomes.filterMap (caseFailure? number)
  rowsChecked := outcomes.length

end Verification

def verify {σ : Type} (spec : Specification) (source : RowSource σ) (s : σ) :
    Except VerifyError Verification × σ :=
  match Verification.checkFrom spec source (source.bound s + 1) 0 s with
  | (.ok outcomes, rest) => (.ok (Verification.ofOutcomes spec outcomes), rest)
  | (.error e, rest) => (.error e, rest)

end QueryCheck

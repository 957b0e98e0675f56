import QueryCheck.Report
import QueryCheck.Value.Text

/-!
# Reports as text

A report is a list of lines, each ended by a line feed. Quiet runs write nothing for files that did not
fail.
-/

namespace QueryCheck

namespace Report

def separator : String := "==========================="

def rowBlock (row : Row) (label : String) (lines : List String) : List String :=
  [separator, Value.rowText row, label] ++ lines ++ [""]

def failureLines (failure : RowFailure) : List String :=
  rowBlock failure.row "[failed]" (failure.failed.map (· ++ " #==> False"))

def unknownLines (unknown : UnknownColumns) : List String :=
  ["Unknown Columns::"] ++ rowBlock unknown.row "[unknown]" unknown.messages ++ [""]

/-- Cases without failures are left out. -/
def caseLines (guards : List (List String)) (number : Nat) : List (List RowFailure) → List String
  | [] => []
  | failures :: rest =>
    (if failures.isEmpty then []
      else
        ["Case: " ++ toString number] ++ ((guards[number]?).getD []).map ("- " ++ ·) ++
          failures.flatMap failureLines) ++
      caseLines guards (number + 1) rest

def outcomeLines (outcome : Outcome) : List String :=
  let v := outcome.verification
  (match v.unknownColumns with
    | some unknown => unknownLines unknown
    | none => []) ++
    ["Invariants Failed Cases::"] ++ v.invariantFailures.flatMap failureLines ++ [""] ++
    ["Failed Cases::"] ++ caseLines outcome.guards 0 v.caseFailures ++
    [toString v.rowsChecked ++ " rows checked, " ++ toString v.failureCount ++ " failures"]

def indent (line : String) : String :=
  "    " ++ line

def allLines (report : FileReport) : List String :=
  let header := report.path ++ ":"
  match report.status with
  | .valid => [report.path ++ ": valid"]
  | .invalid => header :: report.errors.map fun e => indent e.text
  | .error => [header, indent ("error: " ++ report.message.getD "unknown error")]
  | _ =>
    header ::
      match report.outcome with
      | some outcome => outcomeLines outcome
      | none => []

def lines (quiet : Bool) (report : FileReport) : List String :=
  if quiet && !report.status.isFailure then [] else allLines report

def text (quiet : Bool) (reports : List FileReport) : String :=
  String.join ((reports.flatMap (lines quiet)).map (· ++ "\n"))

end Report

end QueryCheck

import QueryCheck.Json.Printer
import QueryCheck.Report
import QueryCheck.Value.Json

/-!
# Reports as JSON

One object per file, with the same fields for every status.
-/

namespace QueryCheck

namespace Report

def failureJson (failure : RowFailure) : Json :=
  .object [("row_index", .integer failure.index), ("row", Value.rowJson failure.row),
    ("failed", Json.texts failure.failed)]

def unknownJson (unknown : UnknownColumns) : Json :=
  .object [("row", Value.rowJson unknown.row), ("messages", Json.texts unknown.messages)]

def caseJson (guards : List (List String)) (number : Nat) (failures : List RowFailure) : Json :=
  .object [("index", .integer number), ("where", Json.texts ((guards[number]?).getD [])),
    ("failures", .array (failures.map failureJson))]

def casesJson (guards : List (List String)) (number : Nat) : List (List RowFailure) → List Json
  | [] => []
  | failures :: rest => caseJson guards number failures :: casesJson guards (number + 1) rest

def fileJson (report : FileReport) : Json :=
  let verification := report.outcome.map Outcome.verification
  .object [("path", .string report.path), ("status", .string report.status.name),
    ("errors", .array (report.errors.map SpecError.toJson)),
    ("unknown_columns", Json.ofOption unknownJson (verification.bind Verification.unknownColumns)),
    ("invariants", .array ((verification.map fun v => v.invariantFailures.map failureJson).getD [])),
    ("cases", .array ((report.outcome.map fun o =>
      casesJson o.guards 0 o.verification.caseFailures).getD [])),
    ("rows_checked", Json.ofOption (fun v => .integer (Verification.rowsChecked v)) verification),
    ("message", Json.ofOption .string report.message)]

def toJson (reports : List FileReport) : Json :=
  .array (reports.map fileJson)

end Report

end QueryCheck

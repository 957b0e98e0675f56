import Mathlib.Data.List.Forall2
import QueryCheck.Proofs.Report.Schema

/-!
# What the JSON of reports says

Read back, the JSON of reports gives the errors of every file, the rows that break invariants, and for
every case its place, its own guards and the rows that break its expectations: each once, in order.
-/

namespace QueryCheck

set_option autoImplicit false

/-- A file with everything that its run depends on. -/
structure FileRun where
  {σ ρ : Type}
  files : FileSystem
  slot : ClientSlot σ ρ
  validateOnly : Bool
  path : String
  state : σ

def FileRun.Makes (run : FileRun) (report : FileReport) : Prop :=
  (runFile run.files run.slot run.validateOnly run.path run.state).1 = some report

/-- The reports of files that are run one after the other are made by runs of these files. -/
theorem run_files_made {σ ρ : Type} (files : FileSystem) (slot : ClientSlot σ ρ)
    (validateOnly : Bool) (paths : List String) (s : σ) (reports : List FileReport)
    (reported : (runFiles files slot validateOnly paths s).1 = some reports) :
    ∃ runs : List FileRun, runs.map FileRun.path = paths ∧
      List.Forall₂ FileRun.Makes runs reports := by
  induction paths generalizing s reports with
  | nil =>
      cases reported
      exact ⟨[], rfl, .nil⟩
  | cons path rest induction =>
      unfold runFiles at reported
      cases first : runFile files slot validateOnly path s with
      | mk report left =>
          rw [first] at reported
          cases report with
          | none => cases reported
          | some report =>
              dsimp only at reported
              cases others : runFiles files slot validateOnly rest left with
              | mk found after =>
                  rw [others] at reported
                  cases found with
                  | none => cases reported
                  | some found =>
                      cases reported
                      have made : FileRun.Makes ⟨files, slot, validateOnly, path, s⟩ report := by
                        simp [FileRun.Makes, first]
                      obtain ⟨runs, same, each⟩ := induction left found (by rw [others])
                      exact ⟨_ :: runs, by rw [List.map_cons, same], .cons made each⟩

/-! ## Reading reports -/

structure ListedFailure where
  index : Int
  row : Json
  failed : List String

structure ListedCase where
  index : Int
  guards : List String
  failures : List ListedFailure

/-- What the JSON of a file lists. -/
structure Listing where
  errors : List SpecError
  invariants : List ListedFailure
  cases : List ListedCase

namespace Listing

def readInteger : Json → Option Int
  | .integer n => some n
  | _ => none

def readList {α : Type} (read : Json → Option α) (json : Json) : Option (List α) :=
  json.array?.bind fun items => items.mapM read

def readFailure (json : Json) : Option ListedFailure := do
  let index ← readInteger (← json.field? "row_index")
  let row ← json.field? "row"
  let failed ← readList Json.string? (← json.field? "failed")
  some ⟨index, row, failed⟩

def readCase (json : Json) : Option ListedCase := do
  let index ← readInteger (← json.field? "index")
  let guards ← readList Json.string? (← json.field? "where")
  let failures ← readList readFailure (← json.field? "failures")
  some ⟨index, guards, failures⟩

def readFile (json : Json) : Option Listing := do
  let errors ← readList SpecError.ofJson? (← json.field? "errors")
  let invariants ← readList readFailure (← json.field? "invariants")
  let cases ← readList readCase (← json.field? "cases")
  some ⟨errors, invariants, cases⟩

def readFiles : Json → Option (List Listing) :=
  readList readFile

def failureCount (listing : Listing) : Nat :=
  listing.invariants.length + (listing.cases.flatMap ListedCase.failures).length

end Listing

def RowFailure.listed (failure : RowFailure) : ListedFailure :=
  ⟨failure.index, Value.rowJson failure.row, failure.failed⟩

/-! ## Reading what was written -/

namespace Listing

variable {α β : Type}

theorem read_list {encode : α → Json} {read : Json → Option β} {seen : α → β}
    (each : ∀ item, read (encode item) = some (seen item)) (items : List α) :
    readList read (.array (items.map encode)) = some (items.map seen) := by
  simp only [readList, Json.array?, Option.bind_some]
  induction items with
  | nil => rfl
  | cons item rest induction => simp [each, induction]

theorem read_texts (texts : List String) : readList Json.string? (Json.texts texts) = some texts := by
  have each (text : String) : Json.string? (.string text) = some (id text) := rfl
  have read := read_list each texts
  rwa [List.map_id] at read

theorem read_failure (failure : RowFailure) :
    readFailure (Report.failureJson failure) = some failure.listed := by
  simp [readFailure, Report.failureJson, Json.field?, Fields.get?, readInteger, read_texts,
    RowFailure.listed]

theorem stage_of_name (stage : Stage) : Stage.ofName? stage.name = some stage := by
  cases stage <;> decide

theorem read_spec_error (e : SpecError) : SpecError.ofJson? e.toJson = some e := by
  obtain ⟨stage, message, location⟩ := e
  have texts (place : Location) : (place.segments.map Json.string).mapM Json.string? =
      some place.segments := read_texts place.segments
  cases location <;>
    simp [SpecError.ofJson?, SpecError.toJson, Json.field?, Fields.get?, Json.string?, stage_of_name,
      SpecError.locationOfJson?, SpecError.locationJson, Json.texts, texts]

theorem read_case (guards : List (List String)) (number : Nat) (failures : List RowFailure) :
    readCase (Report.caseJson guards number failures) =
      some ⟨number, (guards[number]?).getD [], failures.map RowFailure.listed⟩ := by
  simp [readCase, Report.caseJson, Json.field?, Fields.get?, readInteger, read_texts,
    read_list read_failure]

theorem cases_json_eq (guards : List (List String)) (number : Nat)
    (cases : List (List RowFailure)) :
    Report.casesJson guards number cases =
      (cases.zipIdx number).map fun numbered => Report.caseJson guards numbered.2 numbered.1 := by
  induction cases generalizing number with
  | nil => rfl
  | cons failures rest induction =>
      rw [Report.casesJson, induction, List.zipIdx_cons, List.map_cons]

/-- What the JSON of a report lists. -/
def ofReport (report : FileReport) : Listing where
  errors := report.errors
  invariants := (report.outcome.map fun outcome =>
    outcome.verification.invariantFailures.map RowFailure.listed).getD []
  cases := (report.outcome.map fun outcome =>
    outcome.verification.caseFailures.zipIdx.map fun numbered =>
      ⟨numbered.2, (outcome.guards[numbered.2]?).getD [], numbered.1.map RowFailure.listed⟩).getD []

theorem read_file (report : FileReport) : readFile (Report.fileJson report) = some (ofReport report) := by
  have errors := read_list read_spec_error report.errors
  rw [List.map_id'] at errors
  cases ended : report.outcome with
  | none =>
      have nothing {α : Type} (read : Json → Option α) : readList read (.array []) = some [] := rfl
      simp [readFile, Report.fileJson, Json.field?, Fields.get?, errors, ended, nothing, ofReport]
  | some outcome =>
      have cases := read_list (fun numbered : List RowFailure × Nat =>
        read_case outcome.guards numbered.2 numbered.1) outcome.verification.caseFailures.zipIdx
      simp [readFile, Report.fileJson, Json.field?, Fields.get?, errors, ended, ofReport, cases_json_eq,
        cases, read_list read_failure]

theorem read_files (reports : List FileReport) :
    readFiles (Report.toJson reports) = some (reports.map ofReport) :=
  read_list read_file reports

end Listing

/-! ## What a listing tells of a run -/

/-- A listing that has all errors and failures of a run, each once and in order. -/
structure Listing.Tells (listing : Listing) (run : FileRun) (report : FileReport) : Prop where
  errors : listing.errors = report.errors
  unverified : report.outcome = none → listing.invariants = [] ∧ listing.cases = []
  invariants : ∀ outcome, report.outcome = some outcome →
    listing.invariants = outcome.verification.invariantFailures.map RowFailure.listed
  cases : ∀ outcome, report.outcome = some outcome → ∃ spec, Executable run.files run.path spec ∧
    outcome.verification.caseFailures.length = spec.cases.length ∧
    listing.cases.length = spec.cases.length ∧
    ∀ (number : Nat) guarded failures, spec.cases[number]? = some guarded →
      outcome.verification.caseFailures[number]? = some failures →
      listing.cases[number]? =
        some ⟨number, guarded.guards.map Check.source, failures.map RowFailure.listed⟩
  count : listing.failureCount =
    (report.outcome.map fun outcome => outcome.verification.failureCount).getD 0

theorem unverified_tells (run : FileRun) (report : FileReport) (unverified : report.outcome = none) :
    (Listing.ofReport report).Tells run report where
  errors := rfl
  unverified := by simp [Listing.ofReport, unverified]
  invariants := by simp [unverified]
  cases := by simp [unverified]
  count := by simp [Listing.failureCount, Listing.ofReport, unverified]

theorem verified_tells (run : FileRun) (spec : Specification) (rows : List Row) (v : Verification)
    (executable : Executable run.files run.path spec) (reports : Reports spec rows v) :
    (Listing.ofReport (.verified run.path ⟨spec.guardTexts, v⟩)).Tells run
      (.verified run.path ⟨spec.guardTexts, v⟩) where
  errors := rfl
  unverified := nofun
  invariants := by
    rintro _ ⟨⟩
    rfl
  cases := by
    rintro _ ⟨⟩
    refine ⟨spec, executable, reports.caseCount, ?_, ?_⟩
    · simp [Listing.ofReport, FileReport.verified, reports.caseCount]
    · intro number guarded failures declared listed
      simp [Listing.ofReport, FileReport.verified, Specification.guardTexts, declared, listed]
  count := by
    have lengths : v.caseFailures.zipIdx.map (fun numbered => numbered.1.length) =
        v.caseFailures.map List.length := by
      rw [← List.zipIdx_map_fst 0 v.caseFailures, List.map_map]
      simp [Function.comp_def]
    simp [Listing.failureCount, Listing.ofReport, FileReport.verified, Verification.failureCount,
      Function.comp_def, lengths]

theorem of_report_tells (run : FileRun) (report : FileReport) (made : run.Makes report) :
    (Listing.ofReport report).Tells run report := by
  have ending := reported_ending run.files run.slot run.validateOnly run.path run.state report made
  cases ending with
  | unreadable => exact unverified_tells run _ rfl
  | invalid => exact unverified_tells run _ rfl
  | valid => exact unverified_tells run _ rfl
  | stopped => exact unverified_tells run _ rfl
  | verified spec rows v _ completes reports =>
      exact verified_tells run spec rows v completes.executable reports

theorem report_conforms (run : FileRun) (report : FileReport) (made : run.Makes report) :
    ReportSchema.file (Report.fileJson report) = true := by
  apply ReportSchema.file_conforms
  have ending := reported_ending run.files run.slot run.validateOnly run.path run.state report made
  cases ending with
  | unreadable => nofun
  | invalid => nofun
  | valid => nofun
  | stopped => nofun
  | verified spec rows v _ _ reports =>
      rintro _ ⟨⟩
      exact ReportSchema.reports_names_conditions reports

theorem reports_conform (runs : List FileRun) (reports : List FileReport)
    (made : List.Forall₂ FileRun.Makes runs reports) :
    ReportSchema.report (Report.toJson reports) = true := by
  apply ReportSchema.list_conforms
  induction made with
  | nil => nofun
  | @cons run report _ _ makes _ induction =>
      exact List.forall_mem_cons.mpr ⟨report_conforms run report makes, induction⟩

/-- The JSON of reports that runs make conforms to its schema and lists what the runs have found. -/
theorem report_json_tells_runs (runs : List FileRun) (reports : List FileReport)
    (made : List.Forall₂ FileRun.Makes runs reports) :
    ReportSchema.report (Report.toJson reports) = true ∧
      ∃ listings, Listing.readFiles (Report.toJson reports) = some listings ∧
        List.Forall₂ (fun run listing => ∃ report, run.Makes report ∧ listing.Tells run report)
          runs listings := by
  refine ⟨reports_conform runs reports made, _, Listing.read_files reports, ?_⟩
  rw [List.forall₂_map_right_iff]
  exact made.imp fun run report makes => ⟨report, makes, of_report_tells run report makes⟩

/-- The only row is open and has no number above zero. -/
def shortAudit : FileRun :=
  ⟨auditFolder, .ok (.ofRows [[("n", .int64 0), ("open", .bool true)]]), false, "audit.yaml", ()⟩

def absentAudit : FileRun :=
  { shortAudit with path := "absent.yaml" }

theorem audit_json_tells_runs :
    ∃ failed unread, List.Forall₂ FileRun.Makes [shortAudit, absentAudit] [failed, unread] ∧
      failed.status = .failed ∧ unread.status = .error ∧
      ReportSchema.report (Report.toJson [failed, unread]) = true ∧
      ∃ listings, Listing.readFiles (Report.toJson [failed, unread]) = some listings ∧
        List.Forall₂ (fun run listing => ∃ report, run.Makes report ∧ listing.Tells run report)
          [shortAudit, absentAudit] listings := by
  have failing : (runFile shortAudit.files shortAudit.slot false "audit.yaml" shortAudit.state).1.map
      FileReport.status = some .failed := by decide +kernel
  have absent : (runFile shortAudit.files shortAudit.slot false "absent.yaml" shortAudit.state).1.map
      FileReport.status = some .error := by decide +kernel
  obtain ⟨failed, madeFailed, failedStatus⟩ := Option.map_eq_some_iff.mp failing
  obtain ⟨unread, madeUnread, unreadStatus⟩ := Option.map_eq_some_iff.mp absent
  have made : List.Forall₂ FileRun.Makes [shortAudit, absentAudit] [failed, unread] :=
    .cons madeFailed (.cons madeUnread .nil)
  exact ⟨failed, unread, made, failedStatus, unreadStatus, report_json_tells_runs _ _ made⟩

end QueryCheck

import QueryCheck.Proofs.Building
import QueryCheck.Proofs.RowFailures
import QueryCheck.Proofs.SchemaConversion
import QueryCheck.Run

/-!
# The verdict on a file

A report is the end of reading, two validations, building, querying and verifying. Its status says how
far the file came and what the rows made of the specification.
-/

namespace QueryCheck

set_option autoImplicit false

/-! ## What the rows make of a specification -/

namespace Specification

def Meets (spec : Specification) (row : Row) : Prop :=
  (∀ check ∈ spec.invariants, check.Holds row) ∧
    ∀ guarded ∈ spec.cases, guarded.Applies row → ∀ check ∈ guarded.expected, check.Holds row

def Violates (spec : Specification) (row : Row) : Prop :=
  (∃ check ∈ spec.invariants, check.Breaks row) ∨
    ∃ guarded ∈ spec.cases, guarded.Applies row ∧ ∃ check ∈ guarded.expected, check.Breaks row

theorem not_violates_iff (spec : Specification) (row : Row) (evaluable : spec.Evaluable row) :
    ¬spec.Violates row ↔ spec.Meets row := by
  constructor
  · intro unviolated
    constructor
    · intro check member
      rcases Check.holds_or_breaks (evaluable check (.invariant member)) with met | broken
      · exact met
      · exact absurd (.inl ⟨check, member, broken⟩) unviolated
    · intro guarded member applies check listed
      have value := evaluable check (.expectation member applies listed)
      rcases Check.holds_or_breaks value with met | broken
      · exact met
      · exact absurd (.inr ⟨guarded, member, applies, check, listed, broken⟩) unviolated
  · intro meets violated
    rcases violated with ⟨check, member, broken⟩ | ⟨guarded, member, applies, check, listed, broken⟩
    · exact Check.not_holds_of_breaks broken (meets.1 check member)
    · exact Check.not_holds_of_breaks broken (meets.2 guarded member applies check listed)

end Specification

namespace Verification

theorem failure_count_eq_zero (v : Verification) : v.failureCount = 0 ↔ v.isSuccess = true := by
  unfold failureCount isSuccess
  rw [Nat.add_eq_zero_iff, List.length_eq_zero_iff, List.length_eq_zero_iff, List.flatten_eq_nil_iff,
    Bool.and_eq_true, List.all_eq_true]
  simp

theorem lists_eq_nil (rows : List Row) (concerns : Row → Prop) (checks : List Check)
    (failures : List RowFailure) (lists : Lists rows concerns checks failures) :
    failures = [] ↔ ¬∃ row ∈ rows, concerns row ∧ ∃ check ∈ checks, check.Breaks row := by
  constructor
  · intro empty found
    rcases found with ⟨row, member, breaks⟩
    obtain ⟨index, placed⟩ := List.mem_iff_getElem?.mp member
    obtain ⟨failure, listed, -⟩ := (lists.listed index).mpr ⟨row, placed, breaks⟩
    rw [empty] at listed
    cases listed
  · intro none
    rw [List.eq_nil_iff_forall_not_mem]
    intro failure member
    obtain ⟨row, placed, breaks⟩ := (lists.listed failure.index).mp ⟨failure, member, rfl⟩
    exact none ⟨row, List.mem_of_getElem? placed, breaks⟩

/-- Success means that no row violates the specification. -/
theorem is_success_iff (spec : Specification) (rows : List Row) (v : Verification)
    (reports : Reports spec rows v) :
    v.isSuccess = true ↔ ¬∃ row ∈ rows, spec.Violates row := by
  unfold isSuccess
  rw [Bool.and_eq_true, List.isEmpty_iff, lists_eq_nil _ _ _ _ reports.invariants, List.all_eq_true]
  constructor
  · intro success violated
    rcases success with ⟨invariants, cases⟩
    rcases violated with ⟨row, member, breaks | ⟨guarded, declared, breaks⟩⟩
    · exact invariants ⟨row, member, trivial, breaks⟩
    · obtain ⟨number, placed⟩ := List.mem_iff_getElem?.mp declared
      have bound : number < v.caseFailures.length := by
        rw [reports.caseCount]
        exact (List.getElem?_eq_some_iff.mp placed).1
      have lists := reports.cases number guarded _ placed (List.getElem?_eq_getElem bound)
      have empty := cases _ (List.getElem_mem bound)
      rw [List.isEmpty_iff, lists_eq_nil _ _ _ _ lists] at empty
      exact empty ⟨row, member, breaks⟩
  · intro unviolated
    constructor
    · intro found
      rcases found with ⟨row, member, -, breaks⟩
      exact unviolated ⟨row, member, .inl breaks⟩
    · intro failures listed
      obtain ⟨number, placed⟩ := List.mem_iff_getElem?.mp listed
      have bound : number < spec.cases.length := by
        rw [← reports.caseCount]
        exact (List.getElem?_eq_some_iff.mp placed).1
      have lists := reports.cases number _ failures (List.getElem?_eq_getElem bound) placed
      rw [List.isEmpty_iff, lists_eq_nil _ _ _ _ lists]
      intro found
      rcases found with ⟨row, member, breaks⟩
      exact unviolated ⟨row, member, .inr ⟨_, List.getElem_mem bound, breaks⟩⟩

end Verification

/-! ## Loading a file -/

def Loads (files : FileSystem) (path : String) (doc : Document) : Prop :=
  ∃ text, files.readText path = .ok text ∧ Document.read text = .ok doc

/-- A validator reports an error. -/
def Rejected (files : FileSystem) (path : String) : Prop :=
  ∃ doc, Loads files path doc ∧ (Schema.errors doc ≠ [] ∨
    ∃ raw, RawSpec.ofDocument doc = .ok raw ∧ Values.errors files raw .root ≠ [])

/-- Neither validator reports an error. -/
def Accepted (files : FileSystem) (path : String) (raw : RawSpec) : Prop :=
  ∃ doc, Loads files path doc ∧ Schema.errors doc = [] ∧ RawSpec.ofDocument doc = .ok raw ∧
    Values.errors files raw .root = []

theorem loads_unique (files : FileSystem) (path : String) (left right : Document)
    (first : Loads files path left) (second : Loads files path right) : left = right := by
  rcases first with ⟨text, found, read⟩
  rcases second with ⟨sameText, foundAgain, readAgain⟩
  rw [found] at foundAgain
  cases foundAgain
  rw [read] at readAgain
  exact Except.ok.inj readAgain

theorem accepted_not_rejected (files : FileSystem) (path : String) (raw : RawSpec)
    (accepted : Accepted files path raw) : ¬Rejected files path := by
  intro rejected
  rcases accepted with ⟨doc, loads, schema, converted, values⟩
  rcases rejected with ⟨other, loadsOther, defective⟩
  have same := loads_unique files path doc other loads loadsOther
  subst same
  rcases defective with shape | ⟨found, convertedAgain, unsound⟩
  · exact shape schema
  · rw [converted] at convertedAgain
    cases convertedAgain
    exact unsound values

/-- A document without defects of shape converts. -/
theorem clean_document_converts (doc : Document) (clean : Schema.errors doc = []) :
    ∃ raw, RawSpec.ofDocument doc = .ok raw := by
  apply (RawSpec.of_document_converts doc).mpr
  rw [Schema.errors, List.map_eq_nil_iff] at clean
  rw [clean]
  exact clears_nil

/-- How far a file comes before its query. -/
inductive Loading (files : FileSystem) (path : String) : Loaded → Prop where
  | unreadable (message : String) (missing : ¬∃ doc, Loads files path doc) :
      Loading files path (.reported (.error path message))
  | invalid (errors : List SpecError) (some : errors ≠ []) (rejected : Rejected files path) :
      Loading files path (.reported (.invalid path errors))
  | beyond (raw : RawSpec) (accepted : Accepted files path raw) :
      Loading files path .beyondCalendar
  | ready (raw : RawSpec) (spec : Specification) (accepted : Accepted files path raw)
      (built : Specification.build raw = .ok spec) : Loading files path (.ready spec)

theorem load_loading (files : FileSystem) (path : String) : Loading files path (load files path) := by
  have unreadable : ∀ text, files.readText path = .ok text → ∀ e, Document.read text = .error e →
      ¬∃ doc, Loads files path doc := by
    intro text found e malformed loads
    rcases loads with ⟨doc, other, foundOther, read⟩
    rw [found] at foundOther
    cases foundOther
    rw [malformed] at read
    cases read
  unfold load
  cases found : files.readText path with
  | error fault =>
      apply Loading.unreadable
      intro loads
      rcases loads with ⟨doc, text, foundText, -⟩
      rw [found] at foundText
      cases foundText
  | ok text =>
      dsimp only
      cases read : Document.read text with
      | error fault => exact .unreadable _ (unreadable text found fault read)
      | ok doc =>
          have loads : Loads files path doc := ⟨text, found, read⟩
          dsimp only
          cases schema : Schema.errors doc with
          | cons error more =>
              have shape : Schema.errors doc ≠ [] := by simp [schema]
              exact .invalid _ (List.cons_ne_nil error more) ⟨doc, loads, .inl shape⟩
          | nil =>
              obtain ⟨raw, converted⟩ := clean_document_converts doc schema
              rw [converted]
              dsimp only
              cases values : Values.errors files raw .root with
              | cons error more =>
                  have unsound : Values.errors files raw .root ≠ [] := by simp [values]
                  exact .invalid _ (List.cons_ne_nil error more)
                    ⟨doc, loads, .inr ⟨raw, converted, unsound⟩⟩
              | nil =>
                  have accepted : Accepted files path raw := ⟨doc, loads, schema, converted, values⟩
                  dsimp only
                  cases built : Specification.build raw with
                  | ok spec => exact .ready raw spec accepted built
                  | error obstacle =>
                      cases obstacle with
                      | defect found =>
                          exact absurd built (raw.build_sound (RawSpec.sound_of_values values) found)
                      | beyondCalendar => exact .beyond raw accepted

/-- What can be executed of a file. -/
def Executable (files : FileSystem) (path : String) (spec : Specification) : Prop :=
  ∃ raw, Accepted files path raw ∧ Specification.build raw = .ok spec

theorem load_ready (files : FileSystem) (path : String) (spec : Specification) :
    load files path = .ready spec ↔ Executable files path spec := by
  constructor
  · intro ready
    have loading := load_loading files path
    rw [ready] at loading
    cases loading with
    | ready raw _ accepted built => exact ⟨raw, accepted, built⟩
  · intro executable
    rcases executable with ⟨raw, ⟨doc, ⟨text, found, read⟩, schema, converted, values⟩, built⟩
    unfold load
    simp only [found, read, schema, converted, values, built]

/-! ## Running a file -/

variable {σ ρ : Type}

/-- The query has rows for an answer, one and all. -/
def Answers (files : FileSystem) (client : Client σ ρ) (spec : Specification) (s : σ)
    (rows : List Row) : Prop :=
  ∃ text running, files.readText spec.queryPath = .ok text ∧
    client.query text spec.parameters s = .ok running ∧ client.source.items running = rows.map .ok

theorem run_specification_ok (files : FileSystem) (client : Client σ ρ) (spec : Specification) (s : σ)
    (v : Verification) :
    (runSpecification files client spec s).1 = .ok v ↔
      ∃ rows, Answers files client spec s rows ∧ (∀ row ∈ rows, spec.Evaluable row) ∧
        Reports spec rows v := by
  unfold runSpecification Answers
  cases found : files.readText spec.queryPath with
  | error fault => simp
  | ok text =>
      cases answered : client.query text spec.parameters s with
      | error failed => simp [answered]
      | ok running =>
          have verified := verify_ok spec client.source running v
          simp only [answered, Except.ok.injEq, ↓existsAndEq, true_and]
          rw [← verified]
          generalize verify spec client.source running = result
          rcases result with ⟨failed | succeeded, rest⟩
          · simp
          · simp

/-- A run that gets to its end with rows that can all be evaluated. -/
structure Completes (files : FileSystem) (slot : ClientSlot σ ρ) (path : String) (s : σ)
    (spec : Specification) (rows : List Row) : Prop where
  executable : Executable files path spec
  answered : ∃ client, slot = .ok client ∧ Answers files client spec s rows
  evaluable : ∀ row ∈ rows, spec.Evaluable row

theorem completed_run_is_verified (files : FileSystem) (slot : ClientSlot σ ρ) (path : String) (s : σ)
    (spec : Specification) (rows : List Row) (completes : Completes files slot path s spec rows) :
    ∃ v, Reports spec rows v ∧
      (runFile files slot false path s).1 = some (.verified path ⟨spec.guardTexts, v⟩) := by
  obtain ⟨client, configured, answers⟩ := completes.answered
  have reports := Verification.reports_of_outcomes spec rows
  have succeeds := (run_specification_ok files client spec s _).mpr
    ⟨rows, answers, completes.evaluable, reports⟩
  refine ⟨_, reports, ?_⟩
  unfold runFile
  rw [(load_ready files path spec).mpr completes.executable, configured]
  dsimp only
  generalize runSpecification files client spec s = result at succeeds
  rcases result with ⟨outcome, rest⟩
  cases succeeds
  rfl

/-- How a file ends that is reported. -/
inductive Ending (files : FileSystem) (slot : ClientSlot σ ρ) (validateOnly : Bool) (path : String)
    (s : σ) : FileReport → Prop where
  | unreadable (message : String) (missing : ¬∃ doc, Loads files path doc) :
      Ending files slot validateOnly path s (.error path message)
  | invalid (errors : List SpecError) (some : errors ≠ []) (rejected : Rejected files path) :
      Ending files slot validateOnly path s (.invalid path errors)
  | valid (raw : RawSpec) (asked : validateOnly = true) (accepted : Accepted files path raw) :
      Ending files slot validateOnly path s (.valid path)
  | stopped (raw : RawSpec) (message : String) (asked : validateOnly = false)
      (accepted : Accepted files path raw) :
      Ending files slot validateOnly path s (.error path message)
  | verified (spec : Specification) (rows : List Row) (v : Verification)
      (asked : validateOnly = false) (completes : Completes files slot path s spec rows)
      (reports : Reports spec rows v) :
      Ending files slot validateOnly path s (.verified path ⟨spec.guardTexts, v⟩)

theorem reported_ending (files : FileSystem) (slot : ClientSlot σ ρ) (validateOnly : Bool)
    (path : String) (s : σ) (report : FileReport)
    (reported : (runFile files slot validateOnly path s).1 = some report) :
    Ending files slot validateOnly path s report := by
  have loading := load_loading files path
  unfold runFile at reported
  generalize load files path = loaded at loading reported
  cases loading with
  | unreadable message missing =>
      cases reported
      exact .unreadable message missing
  | invalid errors some rejected =>
      cases reported
      exact .invalid errors some rejected
  | beyond raw accepted => cases reported
  | ready raw spec accepted built =>
      cases validateOnly with
      | true =>
          cases reported
          exact .valid raw rfl accepted
      | false =>
          cases slot with
          | error message =>
              cases reported
              exact .stopped raw message rfl accepted
          | ok client =>
              have succeeds := run_specification_ok files client spec s
              dsimp only at reported
              generalize runSpecification files client spec s = result at succeeds reported
              rcases result with ⟨e | v, rest⟩
              · have message : report = .error path e.message := by
                  cases e with
                  | query error => cases error <;> cases reported <;> rfl
                  | readQuery path fault =>
                      cases reported
                      rfl
                  | verify error =>
                      cases reported
                      rfl
                rw [message]
                exact .stopped raw _ rfl accepted
              · cases reported
                obtain ⟨rows, answers, evaluable, reports⟩ := (succeeds v).mp rfl
                have executable : Executable files path spec := ⟨raw, accepted, built⟩
                exact .verified spec rows v rfl ⟨executable, ⟨client, rfl, answers⟩, evaluable⟩ reports

/-- Neither the client nor its state matters to a file that is only validated or that is rejected. -/
theorem unqueried_run {σ' ρ' : Type} (files : FileSystem) (slot : ClientSlot σ ρ) (validateOnly : Bool)
    (path : String) (s : σ) (report : FileReport)
    (reported : (runFile files slot validateOnly path s).1 = some report)
    (unqueried : validateOnly = true ∨ Rejected files path) (other : ClientSlot σ' ρ') (left : σ') :
    runFile files other validateOnly path left = (some report, left) := by
  have loading := load_loading files path
  unfold runFile at reported ⊢
  generalize load files path = loaded at loading reported
  cases loading with
  | unreadable message missing =>
      cases reported
      rfl
  | invalid errors some rejected =>
      cases reported
      rfl
  | beyond raw accepted => cases reported
  | ready raw spec accepted built =>
      have asked : validateOnly = true := by
        rcases unqueried with asked | rejected
        · exact asked
        · exact absurd rejected (accepted_not_rejected files path raw accepted)
      subst asked
      cases reported
      rfl

/-- What the report of a file says about the run. -/
structure Verdict (files : FileSystem) (slot : ClientSlot σ ρ) (validateOnly : Bool) (path : String)
    (s : σ) (report : FileReport) : Prop where
  file : report.path = path
  passed : report.status = .passed ↔ validateOnly = false ∧
    ∃ spec rows, Completes files slot path s spec rows ∧ ∀ row ∈ rows, spec.Meets row
  failed : report.status = .failed ↔ validateOnly = false ∧
    ∃ spec rows, Completes files slot path s spec rows ∧ ∃ row ∈ rows, spec.Violates row
  invalid : report.status = .invalid ↔ Rejected files path
  valid : report.status = .valid ↔ validateOnly = true ∧ ∃ raw, Accepted files path raw
  errors : report.errors ≠ [] ↔ report.status = .invalid
  message : report.message.isSome = true ↔ report.status = .error
  outcome : report.outcome.isSome = true ↔ report.status = .passed ∨ report.status = .failed
  failures : ∀ outcome, report.outcome = some outcome →
    (outcome.verification.failureCount = 0 ↔ report.status = .passed)
  unqueried : validateOnly = true ∨ Rejected files path →
    ∀ {σ' ρ' : Type} (other : ClientSlot σ' ρ') (left : σ'),
      runFile files other validateOnly path left = (some report, left)

theorem verified_status (path : String) (outcome : Outcome) :
    (FileReport.verified path outcome).status = .passed ∧ outcome.verification.isSuccess = true ∨
      (FileReport.verified path outcome).status = .failed ∧ outcome.verification.isSuccess = false := by
  unfold FileReport.verified
  cases outcome.verification.isSuccess with
  | true => exact .inl ⟨rfl, rfl⟩
  | false => exact .inr ⟨rfl, rfl⟩

theorem verified_neither (path : String) (outcome : Outcome) :
    (FileReport.verified path outcome).status ≠ .invalid ∧
      (FileReport.verified path outcome).status ≠ .valid := by
  rcases verified_status path outcome with ⟨status, -⟩ | ⟨status, -⟩
  · rw [status]
    decide
  · rw [status]
    decide

namespace Ending

variable {files : FileSystem} {slot : ClientSlot σ ρ} {validateOnly : Bool} {path : String} {s : σ}
  {report : FileReport}

theorem passed_completes (ending : Ending files slot validateOnly path s report)
    (passed : report.status = .passed) :
    validateOnly = false ∧
      ∃ spec rows, Completes files slot path s spec rows ∧ ∀ row ∈ rows, spec.Meets row := by
  cases ending with
  | unreadable message missing => cases passed
  | invalid errors some rejected => cases passed
  | valid raw asked accepted => cases passed
  | stopped raw message asked accepted => cases passed
  | verified spec rows v asked completes reports =>
      refine ⟨asked, spec, rows, completes, ?_⟩
      rcases verified_status path ⟨spec.guardTexts, v⟩ with ⟨-, success⟩ | ⟨failed, -⟩
      · have unviolated := (Verification.is_success_iff spec rows v reports).mp success
        intro row member
        rw [← spec.not_violates_iff row (completes.evaluable row member)]
        intro violated
        exact unviolated ⟨row, member, violated⟩
      · rw [passed] at failed
        cases failed

theorem failed_completes (ending : Ending files slot validateOnly path s report)
    (failed : report.status = .failed) :
    validateOnly = false ∧
      ∃ spec rows, Completes files slot path s spec rows ∧ ∃ row ∈ rows, spec.Violates row := by
  cases ending with
  | unreadable message missing => cases failed
  | invalid errors some rejected => cases failed
  | valid raw asked accepted => cases failed
  | stopped raw message asked accepted => cases failed
  | verified spec rows v asked completes reports =>
      refine ⟨asked, spec, rows, completes, ?_⟩
      rcases verified_status path ⟨spec.guardTexts, v⟩ with ⟨passed, -⟩ | ⟨-, failure⟩
      · rw [failed] at passed
        cases passed
      · have success := Verification.is_success_iff spec rows v reports
        dsimp only at failure
        rw [failure] at success
        by_contra unviolated
        cases success.mpr unviolated

theorem invalid_iff (ending : Ending files slot validateOnly path s report) :
    report.status = .invalid ↔ Rejected files path := by
  cases ending with
  | unreadable message missing =>
      refine iff_of_false nofun ?_
      intro rejected
      rcases rejected with ⟨doc, loads, -⟩
      exact missing ⟨doc, loads⟩
  | invalid errors some rejected => exact iff_of_true rfl rejected
  | valid raw asked accepted =>
      exact iff_of_false nofun (accepted_not_rejected files path raw accepted)
  | stopped raw message asked accepted =>
      exact iff_of_false nofun (accepted_not_rejected files path raw accepted)
  | verified spec rows v asked completes reports =>
      obtain ⟨raw, accepted, -⟩ := completes.executable
      exact iff_of_false (verified_neither path _).1 (accepted_not_rejected files path raw accepted)

theorem valid_iff (ending : Ending files slot validateOnly path s report) :
    report.status = .valid ↔ validateOnly = true ∧ ∃ raw, Accepted files path raw := by
  cases ending with
  | unreadable message missing =>
      refine iff_of_false nofun ?_
      intro accepted
      rcases accepted with ⟨-, raw, doc, loads, -⟩
      exact missing ⟨doc, loads⟩
  | invalid errors some rejected =>
      refine iff_of_false nofun ?_
      intro accepted
      rcases accepted with ⟨-, raw, accepted⟩
      exact accepted_not_rejected files path raw accepted rejected
  | valid raw asked accepted => exact iff_of_true rfl ⟨asked, raw, accepted⟩
  | stopped raw message asked accepted =>
      refine iff_of_false nofun ?_
      rw [asked]
      nofun
  | verified spec rows v asked completes reports =>
      refine iff_of_false (verified_neither path _).2 ?_
      rw [asked]
      nofun

/-- A report carries errors, a message or an outcome, as its status asks for. -/
theorem contents (ending : Ending files slot validateOnly path s report) :
    (report.errors ≠ [] ↔ report.status = .invalid) ∧
      (report.message.isSome = true ↔ report.status = .error) ∧
      (report.outcome.isSome = true ↔ report.status = .passed ∨ report.status = .failed) ∧
      ∀ outcome, report.outcome = some outcome →
        (outcome.verification.failureCount = 0 ↔ report.status = .passed) := by
  cases ending with
  | unreadable message missing => simp [FileReport.error]
  | invalid errors some rejected => simp [FileReport.invalid, some]
  | valid raw asked accepted => simp [FileReport.valid]
  | stopped raw message asked accepted => simp [FileReport.error]
  | verified spec rows v asked completes reports =>
      simp only [Verification.failure_count_eq_zero]
      cases success : v.isSuccess <;> simp [FileReport.verified, success]

end Ending

/-- Every report of a file is a true account of its run. -/
theorem report_is_verdict (files : FileSystem) (slot : ClientSlot σ ρ) (validateOnly : Bool)
    (path : String) (s : σ) (report : FileReport)
    (reported : (runFile files slot validateOnly path s).1 = some report) :
    Verdict files slot validateOnly path s report := by
  have ending := reported_ending files slot validateOnly path s report reported
  obtain ⟨errors, message, outcome, failures⟩ := ending.contents
  -- From right to left a status is settled by this alone: a completed run has one report.
  have completed : ∀ spec rows, validateOnly = false → Completes files slot path s spec rows →
      ∃ v, Reports spec rows v ∧ report = .verified path ⟨spec.guardTexts, v⟩ := by
    intro spec rows asked completes
    subst asked
    obtain ⟨v, reports, verified⟩ :=
      completed_run_is_verified files slot path s spec rows completes
    rw [reported] at verified
    exact ⟨v, reports, Option.some.inj verified⟩
  refine {
    file := ?_
    passed := ⟨ending.passed_completes, ?_⟩
    failed := ⟨ending.failed_completes, ?_⟩
    invalid := ending.invalid_iff
    valid := ending.valid_iff
    errors := errors
    message := message
    outcome := outcome
    failures := failures
    unqueried := ?_ }
  · cases ending <;> rfl
  · intro met
    rcases met with ⟨asked, spec, rows, completes, meets⟩
    obtain ⟨v, reports, rfl⟩ := completed spec rows asked completes
    have success : v.isSuccess = true := by
      rw [Verification.is_success_iff spec rows v reports]
      intro violated
      rcases violated with ⟨row, member, violates⟩
      exact (spec.not_violates_iff row (completes.evaluable row member)).mpr (meets row member) violates
    simp [FileReport.verified, success]
  · intro unmet
    rcases unmet with ⟨asked, spec, rows, completes, violated⟩
    obtain ⟨v, reports, rfl⟩ := completed spec rows asked completes
    have failure : v.isSuccess = false := by
      rw [Bool.eq_false_iff, ne_eq, Verification.is_success_iff spec rows v reports, not_not]
      exact violated
    simp [FileReport.verified, failure]
  · intro unqueried _ _ other left
    exact unqueried_run files slot validateOnly path s report reported unqueried other left

def auditFolder : FileSystem :=
  ⟨[.directory [
    ("q.sql", .file ByteArray.empty),
    ("audit.yaml", .file
      "query_path: q.sql\ncases:\n- where: [open]\n  expected: [n > 0]\n".toUTF8)]],
    fun _ text => text⟩

/-- The second row is closed, so nothing is expected of its number. -/
def auditRows : ClientSlot Unit (List (Except QueryError Row)) :=
  .ok (.ofRows [[("n", .int64 1), ("open", .bool true)], [("n", .int64 0), ("open", .bool false)]])

theorem audit_report_is_verdict :
    ∃ report, (runFile auditFolder auditRows false "audit.yaml" ()).1 = some report ∧
      report.status = .passed ∧ Verdict auditFolder auditRows false "audit.yaml" () report := by
  have status : (runFile auditFolder auditRows false "audit.yaml" ()).1.map FileReport.status =
      some .passed := by decide +kernel
  obtain ⟨report, reported, passed⟩ := Option.map_eq_some_iff.mp status
  exact ⟨report, reported, passed, report_is_verdict _ _ _ _ _ _ reported⟩

end QueryCheck

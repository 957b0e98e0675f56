import QueryCheck.Proofs.Places
import QueryCheck.Proofs.Verdict
import QueryCheck.Report.Json

/-!
# The schema of reports

JSON Schema constraints as tests of JSON values, the schema that is published for reports, and the
proof that the JSON of every report that a run makes conforms to it.
-/

namespace QueryCheck

set_option autoImplicit false

/-! ## Keywords -/

inductive JsonType where
  | null
  | boolean
  | integer
  | number
  | string
  | array
  | object
deriving DecidableEq

def Json.type : Json → JsonType
  | null => .null
  | bool _ => .boolean
  | integer _ => .integer
  | float _ => .number
  | string _ => .string
  | array _ => .array
  | object _ => .object

@[simp]
theorem Json.of_option_none {α : Type} (encode : α → Json) : Json.ofOption encode none = .null := rfl

@[simp]
theorem Json.of_option_some {α : Type} (encode : α → Json) (value : α) :
    Json.ofOption encode (some value) = encode value := rfl

/-- A test of JSON values. A keyword for values of one type says nothing about the others. -/
abbrev JsonSchema := Json → Bool

namespace JsonSchema

def all (keywords : List JsonSchema) : JsonSchema :=
  fun json => keywords.all fun keyword => keyword json

/-- Exactly one of the choices. -/
def oneOf (choices : List JsonSchema) : JsonSchema :=
  fun json => choices.countP (fun choice => choice json) == 1

def type (types : List JsonType) : JsonSchema :=
  fun json => types.contains json.type

def enum (texts : List String) : JsonSchema
  | .string text => texts.contains text
  | _ => false

def minimum (bound : Int) : JsonSchema
  | .integer n => bound ≤ n
  | .float x => Float.ofInt bound ≤ x
  | _ => true

def items (each : JsonSchema) : JsonSchema
  | .array elements => elements.all each
  | _ => true

def minItems (count : Nat) : JsonSchema
  | .array elements => count ≤ elements.length
  | _ => true

def required (names : List String) : JsonSchema
  | .object fields => names.all fun name => (Fields.get? name fields).isSome
  | _ => true

/-- The listed properties, and no additional ones. -/
def closed (properties : List (String × JsonSchema)) : JsonSchema
  | .object fields => fields.all fun field =>
      match Fields.get? field.1 properties with
      | some schema => schema field.2
      | none => false
  | _ => true

end JsonSchema

/-! ## The schema of a report -/

namespace ReportSchema

open JsonSchema

def text : JsonSchema := type [.string]

def texts : JsonSchema := all [type [.array], items text]

def position : JsonSchema := all [type [.integer], minimum 0]

def row : JsonSchema := type [.object]

def rowFailure : JsonSchema :=
  all [type [.object], required ["row_index", "row", "failed"],
    closed [("row_index", position), ("row", row),
      ("failed", all [type [.array], items text, minItems 1])]]

def specError : JsonSchema :=
  all [type [.object], required ["error_type", "message", "resource_path"],
    closed [("error_type", enum ["SchemaError", "ValueError"]), ("message", text),
      ("resource_path", oneOf [type [.null], texts])]]

def unknownColumns : JsonSchema :=
  oneOf [type [.null],
    all [type [.object], required ["row", "messages"], closed [("row", row), ("messages", texts)]]]

def guardedCase : JsonSchema :=
  all [type [.object], required ["index", "where", "failures"],
    closed [("index", position), ("where", texts),
      ("failures", all [type [.array], items rowFailure])]]

def file : JsonSchema :=
  all [type [.object],
    required ["path", "status", "errors", "unknown_columns", "invariants", "cases", "rows_checked",
      "message"],
    closed [("path", text), ("status", enum ["passed", "failed", "invalid", "valid", "error"]),
      ("errors", all [type [.array], items specError]), ("unknown_columns", unknownColumns),
      ("invariants", all [type [.array], items rowFailure]),
      ("cases", all [type [.array], items guardedCase]),
      ("rows_checked", all [type [.integer, .null], minimum 0]),
      ("message", type [.string, .null])]]

def report : JsonSchema := all [type [.array], items file]

/-! ## Parts -/

variable {α : Type}

theorem list_conforms (schema : JsonSchema) (encode : α → Json) (elements : List α)
    (each : ∀ element ∈ elements, schema (encode element) = true) :
    all [type [.array], items schema] (.array (elements.map encode)) = true := by
  simpa [all, type, items, Json.type] using each

/-- An object that has exactly the required properties, each of which conforms. -/
theorem object_conforms {needed : List String} {properties : List (String × JsonSchema)}
    {fields : List (String × Json)} (distinct : needed.Nodup)
    (known : properties.map Prod.fst = needed) (names : fields.map Prod.fst = needed)
    (conform : ∀ field ∈ fields, ∀ property ∈ properties, field.1 = property.1 →
      property.2 field.2 = true) :
    all [type [.object], required needed, closed properties] (.object fields) = true := by
  have present : ∀ name ∈ needed, (Fields.get? name fields).isSome = true := by
    intro name member
    rw [← names] at distinct member
    obtain ⟨⟨key, value⟩, held, same⟩ := List.mem_map.mp member
    cases same
    rw [Fields.get_of_mem distinct held]
    rfl
  have accepted : ∀ field ∈ fields, (match Fields.get? field.1 properties with
      | some schema => schema field.2
      | none => false) = true := by
    intro field member
    have listed : field.1 ∈ properties.map Prod.fst := by
      rw [known, ← names]
      exact List.mem_map_of_mem member
    obtain ⟨property, held, same⟩ := List.mem_map.mp listed
    rw [← known] at distinct
    rw [← same, Fields.get_of_mem distinct held]
    exact conform field member property held same.symm
  simp only [all, List.all_cons, List.all_nil, Bool.and_true, Bool.and_eq_true]
  exact ⟨rfl, List.all_eq_true.mpr present, List.all_eq_true.mpr accepted⟩

theorem texts_conform (elements : List String) : texts (Json.texts elements) = true :=
  list_conforms text .string elements (by simp [text, type, Json.type])

theorem position_conforms (n : Nat) : position (.integer n) = true := by
  simp [position, all, type, minimum, Json.type]

theorem row_conforms (content : Row) : row (Value.rowJson content) = true := by
  simp [row, type, Value.rowJson, Value.toJson, Json.type]

theorem failure_conforms (failure : RowFailure) (some : failure.failed ≠ []) :
    rowFailure (Report.failureJson failure) = true := by
  have failed : all [type [.array], items text, minItems 1] (Json.texts failure.failed) = true := by
    have listed := texts_conform failure.failed
    simp only [texts, all, List.all_cons, List.all_nil, Bool.and_true, Bool.and_eq_true] at listed ⊢
    refine ⟨listed.1, listed.2, ?_⟩
    simpa [Json.texts, minItems, Nat.one_le_iff_ne_zero] using some
  refine object_conforms (by simp) rfl rfl ?_
  simp [position_conforms, row_conforms, failed]

theorem null_conforms (schema : JsonSchema) (other : schema .null = false) :
    oneOf [type [.null], schema] .null = true := by
  simp [oneOf, type, Json.type, other]

theorem value_conforms (schema : JsonSchema) (json : Json) (present : json.type ≠ .null)
    (conforms : schema json = true) : oneOf [type [.null], schema] json = true := by
  simp [oneOf, type, present, conforms]

theorem spec_error_conforms (e : SpecError) : specError e.toJson = true := by
  have stage : enum ["SchemaError", "ValueError"] (.string e.stage.name) = true := by
    cases e.stage <;> rfl
  have place : oneOf [type [.null], texts] (Json.ofOption SpecError.locationJson e.location) = true := by
    cases e.location with
    | none => exact null_conforms texts rfl
    | some location => exact value_conforms texts _ nofun (texts_conform location.segments)
  have message : text (.string e.message) = true := rfl
  refine object_conforms (by simp) rfl rfl ?_
  simp [stage, message, place]

theorem unknown_columns_conform (found : Option UnknownColumns) :
    unknownColumns (Json.ofOption Report.unknownJson found) = true := by
  cases found with
  | none => exact null_conforms _ rfl
  | some unknown =>
      refine value_conforms _ _ nofun (object_conforms (by simp) rfl rfl ?_)
      simp [row_conforms, texts_conform]

theorem case_conforms (guards : List (List String)) (number : Nat) (failures : List RowFailure)
    (some : ∀ failure ∈ failures, failure.failed ≠ []) :
    guardedCase (Report.caseJson guards number failures) = true := by
  have listed := list_conforms rowFailure Report.failureJson failures fun failure member =>
    failure_conforms failure (some failure member)
  refine object_conforms (by simp) rfl rfl ?_
  simp [position_conforms, texts_conform, listed]

theorem cases_conform (guards : List (List String)) (number : Nat)
    (cases : List (List RowFailure))
    (some : ∀ failures ∈ cases, ∀ failure ∈ failures, failure.failed ≠ []) :
    all [type [.array], items guardedCase] (.array (Report.casesJson guards number cases)) = true := by
  have each : ∀ json ∈ Report.casesJson guards number cases, guardedCase json = true := by
    induction cases generalizing number with
    | nil => nofun
    | cons failures rest induction =>
        rw [List.forall_mem_cons] at some
        exact List.forall_mem_cons.mpr
          ⟨case_conforms guards number failures some.1, induction (number + 1) some.2⟩
  simpa [all, type, items, Json.type] using each

/-! ## Files -/

/-- Every row that is listed comes with a condition that it breaks. -/
structure NamesConditions (v : Verification) : Prop where
  invariants : ∀ failure ∈ v.invariantFailures, failure.failed ≠ []
  cases : ∀ failures ∈ v.caseFailures, ∀ failure ∈ failures, failure.failed ≠ []

theorem failed_ne_nil {rows : List Row} {concerns : Row → Prop} {checks : List Check}
    {failures : List RowFailure} (lists : Lists rows concerns checks failures) :
    ∀ failure ∈ failures, failure.failed ≠ [] := by
  intro failure member
  obtain ⟨placed, failed⟩ := lists.entry failure member
  obtain ⟨row, found, -, breaking⟩ := (lists.listed failure.index).mp ⟨failure, member, rfl⟩
  rw [placed] at found
  cases found
  rw [failed]
  exact (Check.broken_sources_ne_nil failure.row checks).mpr breaking

theorem reports_names_conditions {spec : Specification} {rows : List Row} {v : Verification}
    (reports : Reports spec rows v) : NamesConditions v where
  invariants := failed_ne_nil reports.invariants
  cases := by
    intro failures member
    obtain ⟨number, bound, rfl⟩ := List.getElem_of_mem member
    have declared : number < spec.cases.length := by rw [← reports.caseCount]; exact bound
    exact failed_ne_nil (reports.cases number _ _ (List.getElem?_eq_getElem declared)
      (List.getElem?_eq_getElem bound))

theorem file_conforms (report : FileReport)
    (named : ∀ outcome, report.outcome = some outcome → NamesConditions outcome.verification) :
    file (Report.fileJson report) = true := by
  have path : text (.string report.path) = true := rfl
  have status : enum ["passed", "failed", "invalid", "valid", "error"] (.string report.status.name) =
      true := by
    cases report.status <;> rfl
  have errors := list_conforms specError SpecError.toJson report.errors fun e _ => spec_error_conforms e
  have message : type [.string, .null] (Json.ofOption .string report.message) = true := by
    cases report.message <;> rfl
  have counted (n : Nat) : all [type [.integer, .null], minimum 0] (.integer n) = true := by
    simp [all, type, minimum, Json.type]
  unfold Report.fileJson
  refine object_conforms (by simp) rfl rfl ?_
  cases ended : report.outcome with
  | none =>
      have uncounted : all [type [.integer, .null], minimum 0] .null = true := rfl
      have unlisted : unknownColumns .null = true := unknown_columns_conform none
      have nothing (schema : JsonSchema) : all [type [.array], items schema] (.array []) = true := rfl
      simp [path, status, errors, message, nothing, uncounted, unlisted]
  | some outcome =>
      have unlisted := unknown_columns_conform outcome.verification.unknownColumns
      have invariants := list_conforms rowFailure Report.failureJson
        outcome.verification.invariantFailures fun failure member =>
          failure_conforms failure ((named outcome ended).invariants failure member)
      have cases := cases_conform outcome.guards 0 outcome.verification.caseFailures
        (named outcome ended).cases
      simp [path, status, errors, message, counted, unlisted, invariants, cases]

end ReportSchema

end QueryCheck

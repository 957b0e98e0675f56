import Mathlib.Data.List.Forall2
import Mathlib.Tactic.ByContra
import QueryCheck.Proofs.Calendar
import QueryCheck.Proofs.CalendarText
import QueryCheck.Proofs.Except
import QueryCheck.Specification
import QueryCheck.Specification.Values

/-!
# Specifications with sound values

Building looks at the same parts as the value checks and stops at the first defect that they list.
Without defects only the calendar is in the way: a date-time with an offset, or a timestamp that is
sent to the warehouse, is moved to Greenwich, where its clock may show a year that no date has.
-/

namespace QueryCheck

set_option autoImplicit false

/-! ## Parameters that leave the calendar -/

namespace RawParameter

/-- A date-time written with an offset has no clock at Greenwich. -/
def DateTimeLeaves (raw : RawParameter) : Prop :=
  ScalarType.ofName? raw.typeName = some .datetime ∧ ∃ text ts, raw.value = .text text ∧
    Calendar.readDateTime? text.toList = none ∧
      Calendar.readTimestamp? text.toList = some ts ∧ ts.LeavesCalendar

/-- A timestamp has no clock at Greenwich. -/
def TimestampLeaves (raw : RawParameter) : Prop :=
  ScalarType.ofName? raw.typeName = some .timestamp ∧ ∃ text ts, raw.value = .text text ∧
    Calendar.readTimestamp? text.toList = some ts ∧ ts.LeavesCalendar

end RawParameter

namespace ParameterValue

theorem or_unfit_ok {α : Type} {make : α → ParameterValue} {found : Option α} {result : ParameterValue} :
    orUnfit make found = .ok result ↔ ∃ value, found = some value ∧ make value = result := by
  cases found <;> simp [orUnfit]

theorem resolve_date_time_ok (text : List Char) (value : ParameterValue) :
    resolveDateTime text = .ok value ↔ ∃ dt, value = .datetime dt ∧
      (Calendar.readDateTime? text = some dt ∨ Calendar.readDateTime? text = none ∧
        ∃ ts, Calendar.readTimestamp? text = some ts ∧ ts.utcCivil? = some dt) := by
  unfold resolveDateTime
  cases Calendar.readDateTime? text with
  | some dt => simp [eq_comm]
  | none =>
      cases Calendar.readTimestamp? text with
      | none => simp
      | some ts => cases civil : ts.utcCivil? <;> simp [civil, eq_comm]

theorem resolve_date_time_unfit (text : List Char) :
    resolveDateTime text = .error .unfit ↔ Calendar.readTimestamp? text = none := by
  unfold resolveDateTime
  cases read : Calendar.readDateTime? text with
  | some dt => simp [Calendar.read_timestamp_of_date_time read]
  | none =>
      cases Calendar.readTimestamp? text with
      | none => simp
      | some ts => cases civil : ts.utcCivil? <;> simp [civil]

theorem or_unfit_unfit {α : Type} (make : α → ParameterValue) (read : Option α) :
    orUnfit make read = .error .unfit ↔ read.isSome = false := by
  cases read with
  | none => simp [orUnfit]
  | some value => simp [orUnfit]

/-- A type refuses a value exactly when the value is not accepted for it. -/
theorem resolve_unfit (type : ScalarType) (value : Scalar) :
    resolve type value = .error .unfit ↔ type.accepts value = false := by
  cases type <;> cases value <;>
    simp [resolve, ScalarType.accepts, or_unfit_unfit, resolve_date_time_unfit]

/-- Only date-times with an offset are moved while a parameter is resolved. -/
theorem resolve_beyond_calendar (type : ScalarType) (value : Scalar) :
    resolve type value = .error .beyondCalendar ↔
      type = .datetime ∧ ∃ text ts, value = .text text ∧
        Calendar.readDateTime? text.toList = none ∧
          Calendar.readTimestamp? text.toList = some ts ∧ ts.LeavesCalendar := by
  have moved : ∀ text : String, resolveDateTime text.toList = .error .beyondCalendar ↔
      ∃ ts, Calendar.readDateTime? text.toList = none ∧
        Calendar.readTimestamp? text.toList = some ts ∧ ts.LeavesCalendar := by
    intro text
    unfold resolveDateTime
    cases Calendar.readDateTime? text.toList with
    | some dt => simp
    | none =>
        cases Calendar.readTimestamp? text.toList with
        | none => simp
        | some ts =>
            simp only [true_and, Option.some.injEq, exists_eq_left', ← ts.utc_civil_none]
            cases ts.utcCivil? <;> simp
  have unread : ∀ {α : Type} (make : α → ParameterValue) (read : Option α),
      orUnfit make read ≠ .error .beyondCalendar := by
    intro α make read
    cases read <;> simp [orUnfit]
  cases type <;> cases value <;> simp [resolve, moved, unread]

end ParameterValue

namespace Specification

/-! ## Building beside the value checks -/

variable {α β : Type}

/-- What is built has no defect, and a defect that stops the building is the first one listed. -/
structure Mirrors (listed : List ValueDefect) (result : Building β) : Prop where
  clean : ∀ value, result = .ok value → listed = []
  first : ∀ found, result = .error (.defect found) → listed.head? = some found

theorem mirrors_ok (value : β) : Mirrors [] (.ok value) where
  clean := by
    intro _ _
    rfl
  first := by
    intro found impossible
    cases impossible

theorem mirrors_bind {first : Building α} {next : α → Building β} {early late : List ValueDefect}
    (before : Mirrors early first) (after : ∀ value, Mirrors late (next value)) :
    Mirrors (early ++ late) (first >>= next) where
  clean := by
    intro result succeeds
    obtain ⟨value, firstOk, nextOk⟩ := except_bind_ok.mp succeeds
    rw [before.clean value firstOk, (after value).clean result nextOk, List.append_nil]
  first := by
    intro found failed
    rcases except_bind_error.mp failed with firstFailed | ⟨value, firstOk, nextFailed⟩
    · rw [List.head?_append, before.first found firstFailed]
      rfl
    · rw [before.clean value firstOk, List.nil_append]
      exact (after value).first found nextFailed

theorem mirrors_elements {find : α → Location → List ValueDefect}
    {convert : α → Location → Building β}
    (each : ∀ item place, Mirrors (find item place) (convert item place)) (place : Location)
    (index : Nat) (items : List α) :
    Mirrors (Location.collectElements find place index items)
      (Location.convertElements convert place index items) := by
  induction items generalizing index with
  | nil => exact mirrors_ok []
  | cons item rest induction =>
      apply mirrors_bind (each item (place.element index))
      intro first
      have others := mirrors_bind (induction (index + 1)) fun others => mirrors_ok (first :: others)
      rwa [List.append_nil] at others

theorem parameter_mirrors (raw : RawParameter) (place : Location) :
    Mirrors (Values.parameterDefects raw place) (buildParameter raw place) := by
  unfold Values.parameterDefects buildParameter Parameter.resolve
  cases ScalarType.ofName? raw.typeName with
  | none => exact ⟨by simp, by simp⟩
  | some type =>
      have unfit := ParameterValue.resolve_unfit type raw.value
      dsimp only
      cases resolved : ParameterValue.resolve type raw.value with
      | ok value =>
          rw [resolved] at unfit
          have accepted : type.accepts raw.value = true := by simpa using unfit
          rw [if_pos accepted]
          exact mirrors_ok (Parameter.mk raw.name type value)
      | error e =>
          cases e with
          | unfit =>
              have refused := unfit.mp resolved
              exact ⟨by simp [Except.map], by simp [refused, Except.map]⟩
          | beyondCalendar => exact ⟨by simp [Except.map], by simp [Except.map]⟩

theorem check_mirrors (source : String) (place : Location) :
    Mirrors (Values.conditionDefects source place) (buildCheck source place) := by
  unfold Values.conditionDefects buildCheck Check.read
  cases Condition.parse source with
  | error e => exact ⟨by simp [Except.map], by simp [Except.map]⟩
  | ok tree => exact ⟨by simp, by simp [Except.map]⟩

theorem case_mirrors (raw : RawCase) (place : Location) :
    Mirrors (Values.caseDefects raw place) (buildCase raw place) := by
  unfold Values.caseDefects buildCase Values.conditionsDefects
  apply mirrors_bind (mirrors_elements check_mirrors (place.child "where") 0 raw.guards)
  intro guards
  have expected := mirrors_bind
    (mirrors_elements check_mirrors (place.child "expected") 0 raw.expected)
    fun expected => mirrors_ok (GuardedCase.mk guards expected)
  rwa [List.append_nil] at expected

theorem build_mirrors (raw : RawSpec) :
    Mirrors (Values.contentDefects raw .root) (build raw) := by
  unfold Values.contentDefects build Values.conditionsDefects
  rw [List.append_assoc]
  apply mirrors_bind (mirrors_elements parameter_mirrors _ 0 raw.parameters)
  intro parameters
  apply mirrors_bind (mirrors_elements check_mirrors _ 0 raw.invariants)
  intro invariants
  have cases := mirrors_bind (mirrors_elements case_mirrors (Location.root.child "cases") 0 raw.cases)
    fun cases => mirrors_ok (Specification.mk raw.queryPath parameters raw.columns invariants cases)
  rwa [List.append_nil] at cases

end Specification

/-! ## Sound values -/

section elements

variable {α β ε : Type}

theorem collect_elements_nil {find : α → Location → List β} {Sound : α → Prop}
    (each : ∀ item place, find item place = [] ↔ Sound item) (place : Location) (index : Nat)
    (items : List α) :
    Location.collectElements find place index items = [] ↔ ∀ item ∈ items, Sound item := by
  induction items generalizing index with
  | nil => simp [Location.collectElements]
  | cons item rest induction =>
      rw [Location.collectElements, List.append_eq_nil_iff, each, induction, List.forall_mem_cons]

theorem convert_elements_ok {convert : α → Location → Except ε β} {Succeeds : α → Prop}
    (each : ∀ item place, (∃ value, convert item place = .ok value) ↔ Succeeds item)
    (place : Location) (index : Nat) (items : List α) :
    (∃ values, Location.convertElements convert place index items = .ok values) ↔
      ∀ item ∈ items, Succeeds item := by
  induction items generalizing index with
  | nil => simp [Location.convertElements]
  | cons item rest induction =>
      rw [List.forall_mem_cons, ← each item (place.element index), ← induction (index + 1)]
      simp only [Location.convertElements, except_bind_ok]
      constructor
      · intro converted
        rcases converted with ⟨_, first, firstOk, others, othersOk, -⟩
        exact ⟨⟨first, firstOk⟩, others, othersOk⟩
      · intro converted
        rcases converted with ⟨⟨first, firstOk⟩, others, othersOk⟩
        exact ⟨_, first, firstOk, others, othersOk, rfl⟩

theorem convert_elements_each {convert : α → Location → Except ε β} (place : Location) (index : Nat)
    (items : List α) (values : List β)
    (converted : Location.convertElements convert place index items = .ok values) :
    List.Forall₂ (fun item value => ∃ place, convert item place = .ok value) items values := by
  induction items generalizing index values with
  | nil =>
      cases converted
      exact .nil
  | cons item rest induction =>
      simp only [Location.convertElements, except_bind_ok] at converted
      obtain ⟨first, firstOk, others, othersOk, same⟩ := converted
      cases same
      exact .cons ⟨_, firstOk⟩ (induction (index + 1) others othersOk)

end elements

namespace Specification

theorem built_parameters (raw : RawSpec) (spec : Specification) (built : build raw = .ok spec) :
    List.Forall₂ (fun written parameter => ∃ type,
      ScalarType.ofName? written.typeName = some type ∧
        Parameter.resolve type written = .ok parameter) raw.parameters spec.parameters := by
  simp only [build, except_bind_ok] at built
  obtain ⟨found, foundOk, checks, -, guarded, -, same⟩ := built
  cases same
  refine (convert_elements_each _ _ _ _ foundOk).imp ?_
  intro written parameter converted
  obtain ⟨place, made⟩ := converted
  unfold buildParameter at made
  split at made
  · cases made
  · rename_i type named
    refine ⟨type, named, ?_⟩
    split at made
    · rename_i resolved
      cases made
      exact resolved
    · cases made
    · cases made

end Specification

namespace RawParameter

/-- The type is known and accepts the value. -/
def Fits (raw : RawParameter) : Prop :=
  ∃ type, ScalarType.ofName? raw.typeName = some type ∧ type.accepts raw.value = true

theorem parameter_defects_nil (raw : RawParameter) (place : Location) :
    Values.parameterDefects raw place = [] ↔ raw.Fits := by
  unfold Values.parameterDefects Fits
  cases ScalarType.ofName? raw.typeName with
  | none => simp
  | some type => simp

theorem resolve_ok (type : ScalarType) (value : Scalar) :
    (∃ resolved, ParameterValue.resolve type value = .ok resolved) ↔
      type.accepts value = true ∧ ParameterValue.resolve type value ≠ .error .beyondCalendar := by
  have unfit := ParameterValue.resolve_unfit type value
  cases resolved : ParameterValue.resolve type value with
  | ok found =>
      rw [resolved] at unfit
      have accepted : type.accepts value = true := by simpa using unfit
      simp [accepted]
  | error e =>
      cases e with
      | unfit => simp [unfit.mp resolved]
      | beyondCalendar => simp

theorem date_time_leaves_iff (raw : RawParameter) (type : ScalarType)
    (named : ScalarType.ofName? raw.typeName = some type) :
    raw.DateTimeLeaves ↔ ParameterValue.resolve type raw.value = .error .beyondCalendar := by
  unfold DateTimeLeaves
  rw [named, ParameterValue.resolve_beyond_calendar, Option.some.injEq]

theorem build_parameter_ok (raw : RawParameter) (place : Location) :
    (∃ parameter, Specification.buildParameter raw place = .ok parameter) ↔
      raw.Fits ∧ ¬raw.DateTimeLeaves := by
  unfold Specification.buildParameter Fits Parameter.resolve
  cases named : ScalarType.ofName? raw.typeName with
  | none => simp
  | some type =>
      have resolves := resolve_ok type raw.value
      rw [raw.date_time_leaves_iff type named]
      simp only [Option.some.injEq, exists_eq_left']
      rw [← ne_eq, ← resolves]
      cases ParameterValue.resolve type raw.value with
      | ok value => simp [Except.map]
      | error e => cases e <;> simp [Except.map]

end RawParameter

namespace RawSpec

/-- All parameters fit their types, and all conditions can be read. -/
def Sound (raw : RawSpec) : Prop :=
  (∀ p ∈ raw.parameters, p.Fits) ∧
    ∀ source ∈ raw.conditionTexts, ∃ tree, Condition.parse source = .ok tree

theorem condition_defects_nil (source : String) (place : Location) :
    Values.conditionDefects source place = [] ↔ ∃ tree, Condition.parse source = .ok tree := by
  unfold Values.conditionDefects
  cases Condition.parse source <;> simp

theorem case_defects_nil (raw : RawCase) (place : Location) :
    Values.caseDefects raw place = [] ↔
      ∀ source ∈ raw.guards ++ raw.expected, ∃ tree, Condition.parse source = .ok tree := by
  unfold Values.caseDefects Values.conditionsDefects
  rw [List.append_eq_nil_iff, collect_elements_nil condition_defects_nil,
    collect_elements_nil condition_defects_nil, List.forall_mem_append]

theorem content_defects_nil (raw : RawSpec) (base : Location) :
    Values.contentDefects raw base = [] ↔ raw.Sound := by
  unfold Values.contentDefects Values.conditionsDefects Sound conditionTexts
  rw [List.append_eq_nil_iff, List.append_eq_nil_iff,
    collect_elements_nil RawParameter.parameter_defects_nil,
    collect_elements_nil condition_defects_nil, collect_elements_nil case_defects_nil,
    List.forall_mem_append, List.forall_mem_flatMap, and_assoc]

theorem sound_of_values {files : FileSystem} {raw : RawSpec} {base : Location}
    (clean : Values.errors files raw base = []) : raw.Sound := by
  rw [Values.errors, List.map_eq_nil_iff, Values.defects, List.append_eq_nil_iff] at clean
  exact (raw.content_defects_nil base).mp clean.2

theorem build_check_ok (source : String) (place : Location) :
    (∃ check, Specification.buildCheck source place = .ok check) ↔
      ∃ tree, Condition.parse source = .ok tree := by
  unfold Specification.buildCheck Check.read
  cases Condition.parse source <;> simp [Except.map]

theorem build_case_ok (raw : RawCase) (place : Location) :
    (∃ guarded, Specification.buildCase raw place = .ok guarded) ↔
      ∀ source ∈ raw.guards ++ raw.expected, ∃ tree, Condition.parse source = .ok tree := by
  rw [List.forall_mem_append, ← convert_elements_ok build_check_ok (place.child "where") 0,
    ← convert_elements_ok build_check_ok (place.child "expected") 0]
  simp only [Specification.buildCase, except_bind_ok]
  constructor
  · intro built
    rcases built with ⟨_, guards, guardsOk, expected, expectedOk, -⟩
    exact ⟨⟨guards, guardsOk⟩, expected, expectedOk⟩
  · intro built
    rcases built with ⟨⟨guards, guardsOk⟩, expected, expectedOk⟩
    exact ⟨_, guards, guardsOk, expected, expectedOk, rfl⟩

/-- A specification can be built exactly when its values are sound and no date-time leaves the
calendar. -/
theorem build_ok (raw : RawSpec) :
    (∃ spec, Specification.build raw = .ok spec) ↔
      raw.Sound ∧ ∀ p ∈ raw.parameters, ¬p.DateTimeLeaves := by
  have parameters := convert_elements_ok RawParameter.build_parameter_ok
    (Location.root.child "params") 0 raw.parameters
  have invariants := convert_elements_ok build_check_ok
    (Location.root.child "invariants") 0 raw.invariants
  have cases := convert_elements_ok build_case_ok (Location.root.child "cases") 0 raw.cases
  unfold Sound conditionTexts
  rw [List.forall_mem_append, List.forall_mem_flatMap, ← invariants, ← cases]
  simp only [Specification.build, except_bind_ok]
  constructor
  · intro built
    rcases built with ⟨_, found, foundOk, checks, checksOk, guarded, guardedOk, -⟩
    have fitting := parameters.mp ⟨found, foundOk⟩
    refine ⟨⟨?_, ⟨checks, checksOk⟩, guarded, guardedOk⟩, ?_⟩
    · intro p member
      exact (fitting p member).1
    · intro p member
      exact (fitting p member).2
  · intro built
    rcases built with ⟨⟨fits, ⟨checks, checksOk⟩, guarded, guardedOk⟩, stays⟩
    obtain ⟨found, foundOk⟩ := parameters.mpr fun p member => ⟨fits p member, stays p member⟩
    exact ⟨_, found, foundOk, checks, checksOk, guarded, guardedOk, rfl⟩

/-- Sound values never make building report a defect. -/
theorem build_sound (raw : RawSpec) (sound : raw.Sound) (found : ValueDefect) :
    Specification.build raw ≠ .error (.defect found) := by
  intro failed
  have first := (Specification.build_mirrors raw).first found failed
  rw [(raw.content_defects_nil .root).mpr sound] at first
  cases first

theorem build_beyond_calendar (raw : RawSpec) (sound : raw.Sound) :
    Specification.build raw = .error .beyondCalendar ↔ ∃ p ∈ raw.parameters, p.DateTimeLeaves := by
  have builds := raw.build_ok
  rw [and_iff_right sound] at builds
  constructor
  · intro leaves
    by_contra stays
    obtain ⟨spec, built⟩ := builds.mpr fun p member leaving => stays ⟨p, member, leaving⟩
    rw [leaves] at built
    cases built
  · intro leaves
    rcases leaves with ⟨p, member, leaving⟩
    cases result : Specification.build raw with
    | ok spec => exact absurd leaving (builds.mp ⟨spec, result⟩ p member)
    | error obstacle =>
        cases obstacle with
        | defect found => exact absurd result (raw.build_sound sound found)
        | beyondCalendar => rfl

end RawSpec

end QueryCheck

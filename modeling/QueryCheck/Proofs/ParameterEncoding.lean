import QueryCheck.Proofs.Building
import QueryCheck.Warehouse.QueryRequest

/-!
# Sending the parameters of a sound specification

A parameter has a text for the warehouse unless it is a timestamp that leaves the calendar. Together
with the condition for building this says for which sound values a specification can be sent.
-/

namespace QueryCheck

set_option autoImplicit false

open Warehouse

/-- The parameter has no place in the calendar, be it when it is resolved or when it is sent. -/
def RawParameter.LeavesCalendar (raw : RawParameter) : Prop :=
  raw.DateTimeLeaves ∨ raw.TimestampLeaves

namespace ParameterValue

theorem parameter_text_none (value : ParameterValue) :
    parameterText value = none ↔ ∃ ts, value = .timestamp ts ∧ ts.LeavesCalendar := by
  cases value with
  | timestamp ts => simp [parameterText, ← ts.utc_civil_none]
  | bool truth => cases truth <;> simp [parameterText]
  | string text => simp [parameterText]
  | int64 n => simp [parameterText]
  | float64 x => simp [parameterText]
  | datetime dt => simp [parameterText]
  | date d => simp [parameterText]

theorem resolve_timestamp (type : ScalarType) (value : Scalar) (ts : Timestamp)
    (resolved : resolve type value = .ok (.timestamp ts)) :
    type = .timestamp ∧ ∃ text, value = .text text ∧
      Calendar.readTimestamp? text.toList = some ts := by
  cases type <;> cases value <;> simp_all [resolve, resolve_date_time_ok, or_unfit_ok]

end ParameterValue

namespace Specification

theorem built_text_none (written : RawParameter) (parameter : Parameter) (type : ScalarType)
    (named : ScalarType.ofName? written.typeName = some type)
    (resolved : Parameter.resolve type written = .ok parameter) :
    parameterText parameter.value = none ↔ written.TimestampLeaves := by
  obtain ⟨value, valueOk, rfl⟩ := except_map_ok.mp resolved
  dsimp only
  rw [ParameterValue.parameter_text_none]
  unfold RawParameter.TimestampLeaves
  rw [named, Option.some.injEq]
  constructor
  · intro leaving
    rcases leaving with ⟨ts, rfl, leaves⟩
    obtain ⟨sameType, text, sameText, read⟩ :=
      ParameterValue.resolve_timestamp type written.value ts valueOk
    exact ⟨sameType, text, ts, sameText, read, leaves⟩
  · intro leaving
    rcases leaving with ⟨rfl, text, ts, sameText, read, leaves⟩
    refine ⟨ts, ?_, leaves⟩
    rw [sameText, ParameterValue.resolve, read] at valueOk
    cases valueOk
    rfl

theorem parameters_json_some (parameters : List Parameter) :
    (parametersJson parameters).isSome = true ↔
      ∀ p ∈ parameters, (parameterText p.value).isSome = true := by
  induction parameters with
  | nil => simp [parametersJson]
  | cons p rest induction =>
      rw [List.forall_mem_cons, ← induction]
      rw [parametersJson, parameterJson]
      cases parameterText p.value with
      | none => simp
      | some text => cases parametersJson rest <;> simp

theorem query_body_some (settings : Settings) (query : String) (parameters : List Parameter) :
    (queryBody settings query parameters).isSome = true ↔
      ∀ p ∈ parameters, (parameterText p.value).isSome = true := by
  rw [← parameters_json_some]
  unfold queryBody
  rw [Option.isSome_map]

theorem built_texts (raw : RawSpec) (spec : Specification) (built : build raw = .ok spec) :
    (∀ p ∈ spec.parameters, (parameterText p.value).isSome = true) ↔
      ∀ p ∈ raw.parameters, ¬p.TimestampLeaves := by
  have pairs := built_parameters raw spec built
  generalize raw.parameters = written at pairs ⊢
  generalize spec.parameters = parameters at pairs ⊢
  induction pairs with
  | nil => simp
  | cons made others induction =>
      obtain ⟨type, named, resolved⟩ := made
      rw [List.forall_mem_cons, List.forall_mem_cons, ← built_text_none _ _ type named resolved,
        Option.isSome_iff_ne_none]
      exact and_congr_right fun _ => induction

end Specification

/-- Values without defects never make building report one. They are built exactly when no date-time
leaves the calendar, and what is built can then be sent exactly when no timestamp does. -/
theorem sound_values_in_calendar (files : FileSystem) (raw : RawSpec) (base : Location)
    (sound : Values.errors files raw base = []) :
    (∀ found, Specification.build raw ≠ .error (.defect found)) ∧
      ((∃ spec, Specification.build raw = .ok spec) ↔ ∀ p ∈ raw.parameters, ¬p.DateTimeLeaves) ∧
      (∀ spec, Specification.build raw = .ok spec →
        ((∀ p ∈ spec.parameters, (parameterText p.value).isSome = true) ↔
          ∀ p ∈ raw.parameters, ¬p.TimestampLeaves)) ∧
      ((∃ spec, Specification.build raw = .ok spec ∧ ∀ settings query,
          (queryBody settings query spec.parameters).isSome = true) ↔
        ∀ p ∈ raw.parameters, ¬p.LeavesCalendar) := by
  have values := RawSpec.sound_of_values sound
  have builds := raw.build_ok
  rw [and_iff_right values] at builds
  refine ⟨?_, builds, Specification.built_texts raw, ?_⟩
  · exact raw.build_sound values
  · constructor
    · intro sent
      rcases sent with ⟨spec, built, bodies⟩
      have texts := (Specification.query_body_some (.ofProject "" "") "" spec.parameters).mp
        (bodies (.ofProject "" "") "")
      intro p member leaves
      rcases leaves with dateTime | timestamp
      · exact builds.mp ⟨spec, built⟩ p member dateTime
      · exact (Specification.built_texts raw spec built).mp texts p member timestamp
    · intro stays
      obtain ⟨spec, built⟩ := builds.mpr fun p member leaves => stays p member (.inl leaves)
      refine ⟨spec, built, ?_⟩
      intro settings query
      rw [Specification.query_body_some, Specification.built_texts raw spec built]
      intro p member leaves
      exact stays p member (.inr leaves)

/-! ## The last evening of the calendar -/

def queryFolder : FileSystem := ⟨[.directory [("q.sql", .file ByteArray.empty)]], fun _ text => text⟩

/-- One hour west of Greenwich the calendar has still half an hour to go. -/
def lastEvening : String := "9999-12-31T23:30:00-01:00"

def withParameter (typeName text : String) : RawSpec :=
  ⟨"q.sql", [⟨typeName, "stop", .text text⟩], [], ["amount > 0"], []⟩

theorem noon_in_calendar :
    Values.errors queryFolder (withParameter "datetime" "2024-01-31T12:00:00-01:00") .root = [] ∧
      ((∃ spec, Specification.build (withParameter "datetime" "2024-01-31T12:00:00-01:00") = .ok spec ∧
          ∀ settings query, (queryBody settings query spec.parameters).isSome = true) ↔
        ∀ p ∈ (withParameter "datetime" "2024-01-31T12:00:00-01:00").parameters,
          ¬p.LeavesCalendar) := by
  have sound : Values.errors queryFolder (withParameter "datetime" "2024-01-31T12:00:00-01:00")
      .root = [] := by decide +kernel
  exact ⟨sound, (sound_values_in_calendar queryFolder _ .root sound).2.2.2⟩

theorem read_last_evening : ∃ ts, Calendar.readDateTime? lastEvening.toList = none ∧
    Calendar.readTimestamp? lastEvening.toList = some ts ∧ ts.LeavesCalendar := by
  refine ⟨⟨⟨Date.latest, ⟨23, 30, 0, 0, by decide, by decide, by decide, by decide⟩⟩, -60⟩, ?_, ?_, ?_⟩
  · decide +kernel
  · decide +kernel
  · right
    decide +kernel

/-- As a date-time the last evening cannot be built, and as a timestamp it cannot be sent, though the
values are sound. -/
theorem last_evening_leaves_calendar :
    Values.errors queryFolder (withParameter "DATETIME" lastEvening) .root = [] ∧
      Specification.build (withParameter "DATETIME" lastEvening) = .error .beyondCalendar ∧
      Values.errors queryFolder (withParameter "TIMESTAMP" lastEvening) .root = [] ∧
      ∃ spec, Specification.build (withParameter "TIMESTAMP" lastEvening) = .ok spec ∧
        ¬∀ p ∈ spec.parameters, (parameterText p.value).isSome = true := by
  obtain ⟨ts, civil, instant, leaves⟩ := read_last_evening
  have dateTime : Values.errors queryFolder (withParameter "DATETIME" lastEvening) .root = [] := by
    decide +kernel
  have timestamp : Values.errors queryFolder (withParameter "TIMESTAMP" lastEvening) .root = [] := by
    decide +kernel
  refine ⟨dateTime, ?_, timestamp, ?_⟩
  · rw [RawSpec.build_beyond_calendar _ (RawSpec.sound_of_values dateTime)]
    exact ⟨_, List.mem_singleton.mpr rfl, by decide, lastEvening, ts, rfl, civil, instant, leaves⟩
  · have named : ScalarType.ofName? "TIMESTAMP" = some .timestamp := by decide
    have stays : ∀ p ∈ (withParameter "TIMESTAMP" lastEvening).parameters, ¬p.DateTimeLeaves := by
      intro p member leaving
      cases List.mem_singleton.mp member
      have other := leaving.1
      rw [named] at other
      cases other
    obtain ⟨spec, built⟩ := (RawSpec.build_ok _).mpr ⟨RawSpec.sound_of_values timestamp, stays⟩
    refine ⟨spec, built, ?_⟩
    rw [Specification.built_texts _ spec built]
    intro sent
    exact sent _ (List.mem_singleton.mpr rfl) ⟨named, lastEvening, ts, rfl, instant, leaves⟩

end QueryCheck

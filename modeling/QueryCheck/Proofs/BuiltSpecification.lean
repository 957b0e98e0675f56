import Mathlib.Data.List.Forall2
import QueryCheck.Proofs.Building

/-!
# What building makes of a written specification

Building and the value checks tell the same story: apart from the query file, the first error that the
checks list is the one that building stops at, and without such errors every condition, case and
parameter of the written form has its counterpart.
-/

namespace QueryCheck

set_option autoImplicit false

/-! ## Where defects of values lie -/

namespace Location

/-- The second location is the first one or lies behind it. -/
def Leads (place found : Location) : Prop :=
  place.segments <+: found.segments

theorem leads_trans {first second third : Location} (left : first.Leads second)
    (right : second.Leads third) : first.Leads third :=
  List.IsPrefix.trans left right

theorem leads_child (place : Location) (segment : String) : place.Leads (place.child segment) :=
  List.prefix_append _ _

theorem leads_value_of_child {place : Location} {segment name : String}
    (leads : (place.child segment).Leads (place.valueOf name)) : segment = name := by
  unfold Leads valueOf value child at leads
  rw [List.append_assoc] at leads
  have ends := (List.prefix_append_right_inj place.segments).mp leads
  rw [List.singleton_append] at ends
  exact (List.cons_prefix_cons.mp ends).1

end Location

namespace Values

/-- All defects that are found in a part lie behind its location. -/
def Stays {α : Type} (find : α → Location → List ValueDefect) : Prop :=
  ∀ item place, ∀ found ∈ find item place, place.Leads found.location

variable {α : Type} {find : α → Location → List ValueDefect}

theorem elements_stay (stays : Stays find) (place : Location) (index : Nat) (items : List α) :
    ∀ found ∈ Location.collectElements find place index items, place.Leads found.location := by
  induction items generalizing index with
  | nil => simp [Location.collectElements]
  | cons item rest induction =>
      rw [Location.collectElements, List.forall_mem_append]
      refine ⟨?_, induction (index + 1)⟩
      intro found member
      exact Location.leads_trans (place.leads_child _) (stays item (place.element index) found member)

theorem parameter_stays : Stays parameterDefects := by
  intro raw place found member
  unfold parameterDefects at member
  split at member
  · cases List.mem_singleton.mp member
    exact place.leads_child _
  · split at member
    · cases member
    · cases List.mem_singleton.mp member
      exact place.leads_child _

theorem condition_stays : Stays conditionDefects := by
  intro source place found member
  unfold conditionDefects at member
  split at member
  · cases List.mem_singleton.mp member
    exact place.leads_child _
  · cases member

theorem conditions_stay (key : String) (sources : List String) (place : Location) :
    ∀ found ∈ conditionsDefects key sources place, (place.child key).Leads found.location :=
  elements_stay condition_stays (place.child key) 0 sources

theorem case_stays : Stays caseDefects := by
  intro raw place
  unfold caseDefects
  rw [List.forall_mem_append]
  constructor
  · intro found member
    exact Location.leads_trans (place.leads_child _) (conditions_stay _ _ _ found member)
  · intro found member
    exact Location.leads_trans (place.leads_child _) (conditions_stay _ _ _ found member)

theorem content_location (raw : RawSpec) (base : Location) (found : ValueDefect)
    (member : found ∈ contentDefects raw base) : found.location ≠ base.valueOf "query_path" := by
  -- A location behind another entry of the document is not the one of the query path.
  have elsewhere : ∀ key, key ≠ "query_path" → (base.child key).Leads found.location →
      found.location ≠ base.valueOf "query_path" := by
    intro key different leads same
    rw [same] at leads
    exact different (Location.leads_value_of_child leads)
  unfold contentDefects at member
  rcases List.mem_append.mp member with member | listed
  · rcases List.mem_append.mp member with listed | listed
    · exact elsewhere "params" (by decide) (elements_stay parameter_stays _ _ _ found listed)
    · exact elsewhere "invariants" (by decide) (conditions_stay _ _ _ found listed)
  · exact elsewhere "cases" (by decide) (elements_stay case_stays _ _ _ found listed)

theorem query_file_location (files : FileSystem) (path : String) (place : Location)
    (found : ValueDefect) (member : found ∈ queryFileDefects files path place) :
    found.location = place := by
  unfold queryFileDefects at member
  split at member
  · cases List.mem_singleton.mp member
    rfl
  · cases List.mem_singleton.mp member
    rfl
  · cases List.mem_singleton.mp member
    rfl
  · cases member

/-- The error is about the query file. -/
def OfQueryFile (base : Location) (e : SpecError) : Prop :=
  e.location = some (base.valueOf "query_path")

instance (base : Location) (e : SpecError) : Decidable (OfQueryFile base e) :=
  inferInstanceAs (Decidable (e.location = some (base.valueOf "query_path")))

/-- The errors of a written specification that are not about its query file. -/
def otherErrors (files : FileSystem) (raw : RawSpec) (base : Location) : List SpecError :=
  (errors files raw base).filter fun e => ¬OfQueryFile base e

theorem other_errors_of_content (files : FileSystem) (raw : RawSpec) (base : Location) :
    otherErrors files raw base = (contentDefects raw base).map ValueDefect.toError := by
  unfold otherErrors errors defects
  rw [List.map_append, List.filter_append]
  have file : ((queryFileDefects files raw.queryPath (base.valueOf "query_path")).map
      ValueDefect.toError).filter (fun e => ¬OfQueryFile base e) = [] := by
    rw [List.filter_eq_nil_iff]
    intro e listed
    obtain ⟨found, member, rfl⟩ := List.mem_map.mp listed
    have located := query_file_location files raw.queryPath _ found member
    simp [OfQueryFile, ValueDefect.toError, Located.toError, located]
  have content : ((contentDefects raw base).map ValueDefect.toError).filter
      (fun e => ¬OfQueryFile base e) = (contentDefects raw base).map ValueDefect.toError := by
    rw [List.filter_eq_self]
    intro e listed
    obtain ⟨found, member, rfl⟩ := List.mem_map.mp listed
    have located := content_location raw base found member
    simpa [OfQueryFile, ValueDefect.toError, Located.toError] using located
  rw [file, content, List.nil_append]

theorem other_errors_exist (files : FileSystem) (raw : RawSpec) (base : Location) :
    contentDefects raw base ≠ [] ↔ ∃ e ∈ errors files raw base, ¬OfQueryFile base e := by
  have others := other_errors_of_content files raw base
  constructor
  · intro listed
    have some : otherErrors files raw base ≠ [] := by
      rw [others]
      simpa using listed
    obtain ⟨e, member⟩ := List.exists_mem_of_ne_nil _ some
    obtain ⟨listed, other⟩ := List.mem_filter.mp member
    exact ⟨e, listed, of_decide_eq_true other⟩
  · intro found empty
    obtain ⟨e, listed, other⟩ := found
    have member : e ∈ otherErrors files raw base :=
      List.mem_filter.mpr ⟨listed, decide_eq_true other⟩
    rw [others, empty] at member
    cases member

end Values

namespace Specification

/-! ## What is built -/

/-- The check has this source and the tree that is read from it. -/
structure ReadFrom (source : String) (check : Check) : Prop where
  source : check.source = source
  tree : Condition.parse check.source = .ok check.tree

theorem build_check_read {source : String} {place : Location} {check : Check}
    (built : buildCheck source place = .ok check) : ReadFrom source check := by
  unfold buildCheck Check.read at built
  cases parsed : Condition.parse source with
  | error e => simp [parsed, Except.map] at built
  | ok tree =>
      simp only [parsed, Except.map, Except.ok.injEq] at built
      subst built
      exact ⟨rfl, parsed⟩

theorem build_checks_read {sources : List String} {place : Location} {checks : List Check}
    (built : Location.convertElements buildCheck place 0 sources = .ok checks) :
    List.Forall₂ ReadFrom sources checks := by
  refine (convert_elements_each _ _ _ _ built).imp ?_
  intro source check converted
  obtain ⟨place, made⟩ := converted
  exact build_check_read made

/-- The case has the checks of a written case. -/
structure CaseFrom (raw : RawCase) (guarded : GuardedCase) : Prop where
  guards : List.Forall₂ ReadFrom raw.guards guarded.guards
  expected : List.Forall₂ ReadFrom raw.expected guarded.expected

theorem build_case_from {raw : RawCase} {place : Location} {guarded : GuardedCase}
    (built : buildCase raw place = .ok guarded) : CaseFrom raw guarded := by
  simp only [buildCase, except_bind_ok] at built
  obtain ⟨guards, guardsOk, expected, expectedOk, same⟩ := built
  cases same
  exact ⟨build_checks_read guardsOk, build_checks_read expectedOk⟩

theorem case_checks {written : List RawCase} {cases : List GuardedCase}
    (made : List.Forall₂ CaseFrom written cases) :
    List.Forall₂ ReadFrom (written.flatMap fun item => item.guards ++ item.expected)
      (cases.flatMap fun item => item.guards ++ item.expected) := by
  induction made with
  | nil => exact .nil
  | cons first others induction =>
      rw [List.flatMap_cons, List.flatMap_cons]
      exact List.rel_append (List.rel_append first.guards first.expected) induction

theorem sources_of_read {sources : List String} {checks : List Check}
    (made : List.Forall₂ ReadFrom sources checks) : checks.map Check.source = sources := by
  induction made with
  | nil => rfl
  | cons first others induction => rw [List.map_cons, first.source, induction]

theorem trees_of_read {sources : List String} {checks : List Check}
    (made : List.Forall₂ ReadFrom sources checks) :
    ∀ check ∈ checks, Condition.parse check.source = .ok check.tree := by
  induction made with
  | nil => simp
  | cons first others induction => exact List.forall_mem_cons.mpr ⟨first.tree, induction⟩

/-- The specification has the conditions, cases and parameters of its written form. -/
structure Resolves (raw : RawSpec) (spec : Specification) : Prop where
  sources : spec.checks.map Check.source = raw.conditionTexts
  trees : ∀ check ∈ spec.checks, Condition.parse check.source = .ok check.tree
  cases : List.Forall₂ (fun (written : RawCase) (guarded : GuardedCase) =>
    guarded.guards.length = written.guards.length ∧
      guarded.expected.length = written.expected.length) raw.cases spec.cases
  parameters : List.Forall₂ (fun (written : RawParameter) (parameter : Parameter) =>
    parameter.name = written.name ∧
      ScalarType.ofName? written.typeName = some parameter.type) raw.parameters spec.parameters

theorem resolves_of_built (raw : RawSpec) (spec : Specification) (built : build raw = .ok spec) :
    Resolves raw spec := by
  have resolved := built_parameters raw spec built
  simp only [build, except_bind_ok] at built
  obtain ⟨parameters, -, invariants, invariantsOk, cases, casesOk, same⟩ := built
  cases same
  have made : List.Forall₂ CaseFrom raw.cases cases := by
    refine (convert_elements_each _ _ _ _ casesOk).imp ?_
    intro written guarded converted
    obtain ⟨place, madeOk⟩ := converted
    exact build_case_from madeOk
  have checks := List.rel_append (build_checks_read invariantsOk) (case_checks made)
  refine ⟨sources_of_read checks, trees_of_read checks, made.imp ?_, resolved.imp ?_⟩
  · intro written guarded same
    exact ⟨same.guards.length_eq.symm, same.expected.length_eq.symm⟩
  · intro written parameter found
    obtain ⟨type, named, resolvedOk⟩ := found
    obtain ⟨value, -, rfl⟩ := except_map_ok.mp resolvedOk
    exact ⟨rfl, named⟩

/-! ## Building beside the errors -/

theorem refused_iff (raw : RawSpec) (returns : build raw ≠ .error .beyondCalendar) :
    (∃ found, build raw = .error (.defect found)) ↔ Values.contentDefects raw .root ≠ [] := by
  have mirrors := build_mirrors raw
  constructor
  · intro refused listed
    obtain ⟨found, failed⟩ := refused
    have first := mirrors.first found failed
    rw [listed] at first
    cases first
  · intro listed
    cases result : build raw with
    | ok spec => exact absurd (mirrors.clean spec result) listed
    | error obstacle =>
        cases obstacle with
        | defect found => exact ⟨found, rfl⟩
        | beyondCalendar => exact absurd result returns

/-- Building goes by the errors of the value checks, and what it makes goes by the written form. -/
structure GoesByValues (files : FileSystem) (raw : RawSpec) : Prop where
  refused : (∃ found, build raw = .error (.defect found)) ↔
    ∃ e ∈ Values.errors files raw .root, ¬Values.OfQueryFile .root e
  first : ∀ found, build raw = .error (.defect found) →
    (Values.otherErrors files raw .root).head? = some found.toError
  resolves : ∀ spec, build raw = .ok spec → Resolves raw spec

end Specification

/-- Apart from the query file, building and the value checks agree on every specification whose
date-times stay within the calendar. -/
theorem building_goes_by_values (files : FileSystem) (raw : RawSpec)
    (returns : Specification.build raw ≠ .error .beyondCalendar) :
    Specification.GoesByValues files raw where
  refused := by
    rw [Specification.refused_iff raw returns, Values.other_errors_exist files]
  first := by
    intro found failed
    rw [Values.other_errors_of_content, List.head?_map,
      (Specification.build_mirrors raw).first found failed]
    rfl
  resolves := Specification.resolves_of_built raw

/-- The query file is missing, the parameter has a value of another type, and the condition breaks off. -/
def misfit : RawSpec :=
  ⟨"missing.sql", [⟨"int64", "limit", .bool true⟩], [], ["amount >"], []⟩

theorem misfit_goes_by_values :
    Specification.build misfit ≠ .error .beyondCalendar ∧
      (Values.otherErrors ⟨[.directory []], fun _ text => text⟩ misfit .root).head? =
        some ⟨.value, "value is invalid int64", some ⟨["params", "#0", "$val"]⟩⟩ := by
  have failed : Specification.build misfit =
      .error (.defect ⟨.unfitValue "int64", ⟨["params", "#0", "$val"]⟩⟩) := by rfl
  have returns : Specification.build misfit ≠ .error .beyondCalendar := by
    rw [failed]
    nofun
  exact ⟨returns,
    (building_goes_by_values ⟨[.directory []], fun _ text => text⟩ misfit returns).first _ failed⟩

end QueryCheck

import Mathlib.Data.List.Sort
import QueryCheck.Proofs.RowChecks
import QueryCheck.Proofs.RowStream

/-!
# The result of a verification

A verification succeeds exactly when every row can be had and every check that a row needs has a value.
Its result is then settled by the rows: which of them are listed, where, and with which conditions.
-/

namespace QueryCheck

set_option autoImplicit false

/-- The failures of the rows that concern a list of checks and break one of them. -/
structure Lists (rows : List Row) (concerns : Row → Prop) (checks : List Check)
    (failures : List RowFailure) : Prop where
  listed : ∀ index, (∃ failure ∈ failures, failure.index = index) ↔
    ∃ row, rows[index]? = some row ∧ concerns row ∧ ∃ check ∈ checks, check.Breaks row
  entry : ∀ failure ∈ failures, rows[failure.index]? = some failure.row ∧
    failure.failed = Check.brokenSources failure.row checks
  ascending : failures.Pairwise fun earlier later => earlier.index < later.index

/-- What the rows make of a specification. -/
structure Reports (spec : Specification) (rows : List Row) (v : Verification) : Prop where
  invariants : Lists rows (fun _ => True) spec.invariants v.invariantFailures
  caseCount : v.caseFailures.length = spec.cases.length
  cases : ∀ (number : Nat) (guarded : GuardedCase) (failures : List RowFailure),
    spec.cases[number]? = some guarded → v.caseFailures[number]? = some failures →
      Lists rows guarded.Applies guarded.expected failures
  rowsChecked : v.rowsChecked = rows.length
  unknownColumns : ∀ unknown, v.unknownColumns = some unknown ↔
    rows.head? = some unknown.row ∧ unknown.names ≠ [] ∧
      unknown.names = (Fields.names unknown.row).filter (fun name => name ∉ spec.columns)

namespace Verification

/-! ## The rows that are listed -/

/-- The rows with something broken, numbered from the given number on. -/
def failuresFrom (broken : Row → List String) (index : Nat) (rows : List Row) : List RowFailure :=
  (rows.zipIdx index).filterMap fun numbered =>
    if (broken numbered.1).isEmpty then none
    else some ⟨numbered.2, numbered.1, broken numbered.1⟩

theorem mem_failures_from (broken : Row → List String) (rows : List Row) (failure : RowFailure) :
    failure ∈ failuresFrom broken 0 rows ↔
      rows[failure.index]? = some failure.row ∧ broken failure.row ≠ [] ∧
        failure.failed = broken failure.row := by
  unfold failuresFrom
  rw [List.mem_filterMap]
  constructor
  · intro numbered
    rcases numbered with ⟨⟨row, index⟩, member, made⟩
    rw [List.mem_zipIdx_iff_getElem?] at member
    dsimp only at made member
    split at made
    · cases made
    · rename_i breaks
      cases made
      exact ⟨member, by simpa using breaks, rfl⟩
  · intro described
    rcases described with ⟨placed, breaks, failed⟩
    refine ⟨(failure.row, failure.index), List.mem_zipIdx_iff_getElem?.mpr placed, ?_⟩
    dsimp only
    rw [if_neg (by simpa using breaks), ← failed]

theorem failures_from_ascending (broken : Row → List String) (index : Nat) (rows : List Row) :
    (failuresFrom broken index rows).Pairwise fun earlier later => earlier.index < later.index := by
  unfold failuresFrom
  rw [List.pairwise_filterMap]
  have numbers : ((rows.zipIdx index).map Prod.snd).Pairwise (· < ·) := by
    rw [List.zipIdx_map_snd]
    exact List.pairwise_lt_range'
  refine (List.pairwise_map.mp numbers).imp ?_
  intro left right smaller earlier fromLeft later fromRight
  split at fromLeft
  · cases fromLeft
  · split at fromRight
    · cases fromRight
    · cases fromLeft
      cases fromRight
      exact smaller

theorem lists_failures_from (rows : List Row) (concerns : Row → Prop) (checks : List Check)
    (broken : Row → List String)
    (breaks : ∀ row, broken row ≠ [] ↔ concerns row ∧ ∃ check ∈ checks, check.Breaks row)
    (sources : ∀ row, concerns row → broken row = Check.brokenSources row checks) :
    Lists rows concerns checks (failuresFrom broken 0 rows) where
  listed := by
    intro index
    constructor
    · intro listing
      rcases listing with ⟨failure, member, rfl⟩
      obtain ⟨placed, found, -⟩ := (mem_failures_from broken rows failure).mp member
      exact ⟨failure.row, placed, (breaks failure.row).mp found⟩
    · intro violation
      rcases violation with ⟨row, placed, found⟩
      refine ⟨⟨index, row, broken row⟩, ?_, rfl⟩
      exact (mem_failures_from broken rows _).mpr ⟨placed, (breaks row).mpr found, rfl⟩
  entry := by
    intro failure member
    obtain ⟨placed, found, failed⟩ := (mem_failures_from broken rows failure).mp member
    refine ⟨placed, ?_⟩
    rw [failed, sources failure.row ((breaks failure.row).mp found).1]
  ascending := failures_from_ascending broken 0 rows

theorem lists_unique (rows : List Row) (concerns : Row → Prop) (checks : List Check)
    (left right : List RowFailure) (first : Lists rows concerns checks left)
    (second : Lists rows concerns checks right) : left = right := by
  have included : ∀ {one other : List RowFailure}, Lists rows concerns checks one →
      Lists rows concerns checks other → ∀ failure ∈ one, failure ∈ other := by
    intro one other listsOne listsOther failure member
    obtain ⟨same, sameMember, index⟩ := (listsOther.listed failure.index).mpr
      ((listsOne.listed failure.index).mp ⟨failure, member, rfl⟩)
    have own := listsOne.entry failure member
    have others := listsOther.entry same sameMember
    rw [index, own.1] at others
    have rows : failure.row = same.row := Option.some.inj others.1
    have failed : failure.failed = same.failed := by rw [own.2, others.2, rows]
    have equal : failure = same := by
      cases failure
      cases same
      simp_all
    rw [equal]
    exact sameMember
  -- Two lists with the same members that are both ascending can only be the same list.
  have irreflexive : Std.Irrefl fun earlier later : RowFailure => earlier.index < later.index :=
    ⟨fun failure => Nat.lt_irrefl failure.index⟩
  have asymmetric : Std.Asymm fun earlier later : RowFailure => earlier.index < later.index :=
    ⟨fun earlier later => Nat.lt_asymm⟩
  refine List.Pairwise.eq_of_mem_iff first.ascending second.ascending ?_
  intro failure
  exact ⟨included first second failure, included second first failure⟩

theorem reports_unique (spec : Specification) (rows : List Row) (left right : Verification)
    (first : Reports spec rows left) (second : Reports spec rows right) : left = right := by
  have invariants := lists_unique rows _ _ _ _ first.invariants second.invariants
  have cases : left.caseFailures = right.caseFailures := by
    apply List.ext_getElem (by rw [first.caseCount, second.caseCount])
    intro number inLeft inRight
    have declared : number < spec.cases.length := by rw [← first.caseCount]; exact inLeft
    exact lists_unique rows _ _ _ _
      (first.cases number _ _ (List.getElem?_eq_getElem declared) (List.getElem?_eq_getElem inLeft))
      (second.cases number _ _ (List.getElem?_eq_getElem declared) (List.getElem?_eq_getElem inRight))
  have counts : left.rowsChecked = right.rowsChecked := by rw [first.rowsChecked, second.rowsChecked]
  have columns : left.unknownColumns = right.unknownColumns := by
    apply Option.ext
    intro unknown
    rw [first.unknownColumns, second.unknownColumns]
  cases left
  cases right
  simp_all

/-! ## The outcomes of all rows -/

def outcomes (spec : Specification) (index : Nat) (rows : List Row) : List RowOutcome :=
  (rows.zipIdx index).map fun numbered => rowOutcome spec numbered.2 numbered.1

theorem check_items_ok (spec : Specification) (index : Nat)
    (items : List (Except QueryError Row)) (found : List RowOutcome) :
    checkItems spec index items = .ok found ↔
      ∃ rows, items = rows.map .ok ∧ (∀ row ∈ rows, spec.Evaluable row) ∧
        found = outcomes spec index rows := by
  induction items generalizing index found with
  | nil =>
      constructor
      · intro checked
        cases checked
        exact ⟨[], rfl, by simp, rfl⟩
      · intro handing
        rcases handing with ⟨rows, same, -, rfl⟩
        rw [eq_comm, List.map_eq_nil_iff] at same
        rw [same]
        rfl
  | cons item rest induction =>
      cases item with
      | error e =>
          constructor
          · intro checked
            cases checked
          · intro handing
            rcases handing with ⟨rows, same, -⟩
            cases rows <;> cases same
      | ok row =>
          simp only [checkItems, except_bind_ok, check_row_ok, induction]
          constructor
          · intro checked
            rcases checked with ⟨outcome, ⟨evaluable, rfl⟩, others, ⟨rows, rfl, evaluables, rfl⟩, same⟩
            cases same
            exact ⟨row :: rows, rfl, by simpa using ⟨evaluable, evaluables⟩, rfl⟩
          · intro handing
            rcases handing with ⟨rows, same, evaluable, rfl⟩
            cases rows with
            | nil => cases same
            | cons first rows =>
                cases same
                rw [List.forall_mem_cons] at evaluable
                exact ⟨_, ⟨evaluable.1, rfl⟩, _, ⟨rows, rfl, evaluable.2, rfl⟩, rfl⟩

theorem invariant_failures_eq (spec : Specification) (index : Nat) (rows : List Row) :
    (outcomes spec index rows).filterMap invariantFailure? =
      failuresFrom (fun row => Check.brokenSources row spec.invariants) index rows := by
  unfold outcomes failuresFrom
  rw [List.filterMap_map]
  rfl

theorem case_failures_eq (spec : Specification) (index : Nat) (rows : List Row) (number : Nat)
    (guarded : GuardedCase) (declared : spec.cases[number]? = some guarded) :
    (outcomes spec index rows).filterMap (caseFailure? number) =
      failuresFrom (fun row => guarded.brokenExpectations row) index rows := by
  unfold outcomes failuresFrom
  rw [List.filterMap_map]
  congr 1
  funext numbered
  simp only [Function.comp_apply, caseFailure?, rowOutcome, List.getElem?_map, declared,
    Option.map_some, Option.bind_some]
  rfl

theorem unknown_columns_some (columns : List String) (row : Row) (unknown : UnknownColumns) :
    unknownColumns? columns row = some unknown ↔
      unknown.row = row ∧ unknown.names ≠ [] ∧
        unknown.names = (Fields.names row).filter (fun name => name ∉ columns) := by
  have sameTest : (fun name => !columns.contains name) = fun name => decide (name ∉ columns) := by
    funext name
    simp
  unfold unknownColumns?
  rw [sameTest]
  dsimp only
  split
  · rename_i none
    rw [List.isEmpty_iff] at none
    rw [none]
    simp
  · rename_i some
    rw [List.isEmpty_iff] at some
    constructor
    · intro made
      cases made
      exact ⟨rfl, some, rfl⟩
    · intro sides
      rcases sides with ⟨sameRow, -, sameNames⟩
      cases unknown
      simp_all

theorem reports_of_outcomes (spec : Specification) (rows : List Row) :
    Reports spec rows (ofOutcomes spec (outcomes spec 0 rows)) where
  invariants := by
    change Lists rows _ _ ((outcomes spec 0 rows).filterMap invariantFailure?)
    rw [invariant_failures_eq]
    apply lists_failures_from
    · intro row
      rw [Check.broken_sources_ne_nil, true_and]
    · intro row _
      rfl
  caseCount := by simp [ofOutcomes]
  cases := by
    intro number guarded failures declared listed
    have bound : number < spec.cases.length := (List.getElem?_eq_some_iff.mp declared).1
    simp only [ofOutcomes, List.getElem?_map, List.getElem?_range bound, Option.map_some,
      Option.some.injEq] at listed
    rw [← listed, case_failures_eq spec 0 rows number guarded declared]
    apply lists_failures_from
    · intro row
      exact guarded.broken_expectations_ne_nil row
    · intro row applies
      exact if_pos ((guarded.all_met_iff row).mpr applies)
  rowsChecked := by simp [ofOutcomes, outcomes]
  unknownColumns := by
    intro unknown
    cases rows with
    | nil => simp [ofOutcomes, outcomes]
    | cons row rest =>
        simp only [ofOutcomes, outcomes, List.zipIdx_cons, List.map_cons, List.head?_cons,
          Option.bind_some, unknown_columns_some, rowOutcome, Option.some.injEq]
        constructor
        · intro sides
          rcases sides with ⟨rfl, names⟩
          exact ⟨rfl, names⟩
        · intro sides
          rcases sides with ⟨rfl, names⟩
          exact ⟨rfl, names⟩

end Verification

/-- A verification succeeds exactly on rows that can all be had and all be evaluated. -/
theorem verify_ok {σ : Type} (spec : Specification) (source : RowSource σ) (s : σ)
    (v : Verification) :
    (verify spec source s).1 = .ok v ↔
      ∃ rows, source.items s = rows.map .ok ∧ (∀ row ∈ rows, spec.Evaluable row) ∧
        Reports spec rows v := by
  rw [verify_items, except_map_ok]
  simp only [Verification.check_items_ok]
  constructor
  · intro reported
    rcases reported with ⟨found, ⟨rows, handed, evaluable, rfl⟩, rfl⟩
    exact ⟨rows, handed, evaluable, Verification.reports_of_outcomes spec rows⟩
  · intro reported
    rcases reported with ⟨rows, handed, evaluable, reports⟩
    exact ⟨_, ⟨rows, handed, evaluable, rfl⟩,
      Verification.reports_unique spec rows _ _ (Verification.reports_of_outcomes spec rows) reports⟩

/-- Rows that can be had and evaluated have a verification, and nothing else reports on them. -/
theorem rows_are_reported {σ : Type} (spec : Specification) (source : RowSource σ) (s : σ)
    (rows : List Row) (handed : source.items s = rows.map .ok)
    (evaluable : ∀ row ∈ rows, spec.Evaluable row) :
    ∃ v, (verify spec source s).1 = .ok v ∧ Reports spec rows v ∧
      ∀ other, Reports spec rows other → other = v := by
  have reports := Verification.reports_of_outcomes spec rows
  refine ⟨_, (verify_ok spec source s _).mpr ⟨rows, handed, evaluable, reports⟩, reports, ?_⟩
  intro other otherReports
  exact Verification.reports_unique spec rows _ _ otherReports reports

/-- The expectation of the only case names a column that the rows do not have. -/
def shelteredCase : Specification :=
  ⟨"q.sql", [], ["amount"], [⟨"amount", .field "amount"⟩],
    [⟨[⟨"settled", .field "settled"⟩], [⟨"absent", .field "absent"⟩]⟩]⟩

def unsettledRow : Row := [("amount", .int64 0), ("settled", .bool false)]

theorem unsettled_rows_are_reported :
    RowSource.ofList.items [.ok unsettledRow, .ok unsettledRow] =
        [unsettledRow, unsettledRow].map .ok ∧
      (∀ row ∈ [unsettledRow, unsettledRow], shelteredCase.Evaluable row) ∧
      ∃ v, (verify shelteredCase RowSource.ofList [.ok unsettledRow, .ok unsettledRow]).1 = .ok v ∧
        Reports shelteredCase [unsettledRow, unsettledRow] v ∧
        ∀ other, Reports shelteredCase [unsettledRow, unsettledRow] other → other = v := by
  have handed := RowSource.items_of_list [.ok unsettledRow, .ok unsettledRow]
  have evaluable : ∀ row ∈ [unsettledRow, unsettledRow], shelteredCase.Evaluable row := by
    have unsettled : Check.Breaks ⟨"settled", .field "settled"⟩ unsettledRow := rfl
    intro row member
    have same : row = unsettledRow := by simpa using member
    subst row
    intro check needed
    cases needed with
    | invariant member =>
        cases List.mem_singleton.mp member
        exact ⟨false, rfl⟩
    | guard member reached =>
        cases List.mem_singleton.mp member
        rcases (guard_reached_cons _ _ _ _).mp reached with rfl | ⟨met, -⟩
        · exact ⟨false, unsettled⟩
        · exact absurd met (Check.not_holds_of_breaks unsettled)
    | expectation member applies =>
        cases List.mem_singleton.mp member
        exact absurd (applies _ (by simp)) (Check.not_holds_of_breaks unsettled)
  exact ⟨handed, evaluable, rows_are_reported shelteredCase RowSource.ofList _ _ handed evaluable⟩

end QueryCheck

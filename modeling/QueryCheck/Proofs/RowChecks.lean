import QueryCheck.Proofs.Except
import QueryCheck.Verification

/-!
# What a row needs and what it breaks

Checking a row evaluates every invariant, the guards of each case up to the first that does not hold,
and the expectations of the cases that apply. It succeeds exactly when all of these have a value.
-/

namespace QueryCheck

set_option autoImplicit false

namespace Check

def Holds (check : Check) (row : Row) : Prop :=
  check.holds row = .ok true

def Breaks (check : Check) (row : Row) : Prop :=
  check.holds row = .ok false

def HasValue (check : Check) (row : Row) : Prop :=
  ∃ holds, check.holds row = .ok holds

def isMet (row : Row) (check : Check) : Bool :=
  check.holds row matches .ok true

def isBroken (row : Row) (check : Check) : Bool :=
  check.holds row matches .ok false

theorem is_met_iff (row : Row) (check : Check) : check.isMet row = true ↔ check.Holds row := by
  unfold isMet Holds
  split
  · rename_i met
    simp [met]
  · rename_i unmet
    simpa using unmet

theorem is_broken_iff (row : Row) (check : Check) :
    check.isBroken row = true ↔ check.Breaks row := by
  unfold isBroken Breaks
  split
  · rename_i broken
    simp [broken]
  · rename_i unbroken
    simpa using unbroken

theorem not_holds_of_breaks {check : Check} {row : Row} (broken : check.Breaks row) :
    ¬check.Holds row := by
  intro met
  unfold Breaks Holds at *
  rw [broken] at met
  cases met

theorem holds_or_breaks {check : Check} {row : Row} (value : check.HasValue row) :
    check.Holds row ∨ check.Breaks row := by
  rcases value with ⟨holds, evaluated⟩
  cases holds with
  | true => exact .inl evaluated
  | false => exact .inr evaluated

/-- The sources of the checks that are broken on a row, in order. -/
def brokenSources (row : Row) (checks : List Check) : List String :=
  (checks.filter (isBroken row)).map source

theorem broken_sources_ne_nil (row : Row) (checks : List Check) :
    brokenSources row checks ≠ [] ↔ ∃ check ∈ checks, check.Breaks row := by
  unfold brokenSources
  rw [ne_eq, List.map_eq_nil_iff, List.filter_eq_nil_iff]
  simp [is_broken_iff]

end Check

/-- A guard that is evaluated: all guards before it hold. -/
def GuardReached (row : Row) (guards : List Check) (check : Check) : Prop :=
  ∃ before after, guards = before ++ check :: after ∧ ∀ earlier ∈ before, earlier.Holds row

theorem guard_reached_cons (row : Row) (guard check : Check) (rest : List Check) :
    GuardReached row (guard :: rest) check ↔
      check = guard ∨ guard.Holds row ∧ GuardReached row rest check := by
  constructor
  · intro reached
    rcases reached with ⟨before, after, split, reached⟩
    cases before with
    | nil =>
        left
        exact (List.cons.inj split).1.symm
    | cons first before =>
        right
        have parts := List.cons.inj split
        refine ⟨?_, before, after, parts.2, ?_⟩
        · rw [parts.1]
          exact reached first (by simp)
        · intro earlier member
          exact reached earlier (by simp [member])
  · intro either
    rcases either with rfl | ⟨met, before, after, rfl, reached⟩
    · exact ⟨[], rest, rfl, by simp⟩
    · refine ⟨guard :: before, after, rfl, ?_⟩
      intro earlier member
      rcases List.mem_cons.mp member with rfl | later
      · exact met
      · exact reached earlier later

namespace GuardedCase

def Applies (guarded : GuardedCase) (row : Row) : Prop :=
  ∀ guard ∈ guarded.guards, guard.Holds row

/-- The sources of the expectations that a row breaks; none when the case does not apply. -/
def brokenExpectations (row : Row) (guarded : GuardedCase) : List String :=
  if guarded.guards.all (Check.isMet row) then Check.brokenSources row guarded.expected else []

theorem all_met_iff (guarded : GuardedCase) (row : Row) :
    guarded.guards.all (Check.isMet row) = true ↔ guarded.Applies row := by
  simp [Applies, Check.is_met_iff]

theorem broken_expectations_ne_nil (guarded : GuardedCase) (row : Row) :
    guarded.brokenExpectations row ≠ [] ↔
      guarded.Applies row ∧ ∃ check ∈ guarded.expected, check.Breaks row := by
  unfold brokenExpectations
  split
  · rename_i met
    rw [Check.broken_sources_ne_nil]
    exact (and_iff_right ((guarded.all_met_iff row).mp met)).symm
  · rename_i unmet
    constructor
    · intro broken
      exact absurd rfl broken
    · intro breaking
      rcases breaking with ⟨applies, -⟩
      exact absurd ((guarded.all_met_iff row).mpr applies) unmet

end GuardedCase

namespace Specification

/-- A check whose value decides how a row is reported. -/
inductive Needed (spec : Specification) (row : Row) : Check → Prop where
  | invariant {check : Check} (member : check ∈ spec.invariants) : Needed spec row check
  | guard {guarded : GuardedCase} {check : Check} (member : guarded ∈ spec.cases)
      (reached : GuardReached row guarded.guards check) : Needed spec row check
  | expectation {guarded : GuardedCase} {check : Check} (member : guarded ∈ spec.cases)
      (applies : guarded.Applies row) (expected : check ∈ guarded.expected) : Needed spec row check

def Evaluable (spec : Specification) (row : Row) : Prop :=
  ∀ check, spec.Needed row check → check.HasValue row

end Specification

namespace Verification

theorem failed_checks_ok (index : Nat) (row : Row) (checks : List Check) (failed : List String) :
    failedChecks index row checks = .ok failed ↔
      (∀ check ∈ checks, check.HasValue row) ∧ failed = Check.brokenSources row checks := by
  induction checks generalizing failed with
  | nil => simp [failedChecks, Check.brokenSources, eq_comm]
  | cons check rest induction =>
      unfold failedChecks checkHolds
      cases evaluated : check.holds row with
      | error e =>
          have valueless : ¬check.HasValue row := by
            intro valued
            rcases valued with ⟨holds, valued⟩
            rw [evaluated] at valued
            cases valued
          simp [bind, Except.bind, valueless]
      | ok holds =>
          have valued : check.HasValue row := ⟨holds, evaluated⟩
          change (failedChecks index row rest >>= fun failed =>
            .ok (if holds then failed else check.source :: failed)) = .ok failed ↔ _
          rw [except_bind_ok, List.forall_mem_cons, and_iff_right valued]
          cases holds with
          | true =>
              have kept : check.isBroken row = false := by simp [Check.isBroken, evaluated]
              simp [induction, Check.brokenSources, kept, eq_comm]
          | false =>
              have broken : check.isBroken row = true := by simp [Check.isBroken, evaluated]
              constructor
              · intro checked
                rcases checked with ⟨others, succeeds, same⟩
                obtain ⟨values, rfl⟩ := (induction others).mp succeeds
                cases same
                simpa [Check.brokenSources, broken] using values
              · intro expected
                rcases expected with ⟨values, rfl⟩
                refine ⟨_, (induction _).mpr ⟨values, rfl⟩, ?_⟩
                simp [Check.brokenSources, broken]

theorem guards_hold_ok (index : Nat) (row : Row) (guards : List Check) (applies : Bool) :
    guardsHold index row guards = .ok applies ↔
      (∀ check, GuardReached row guards check → check.HasValue row) ∧
        applies = guards.all (Check.isMet row) := by
  induction guards with
  | nil => simp [guardsHold, GuardReached, eq_comm]
  | cons guard rest induction =>
      simp only [guard_reached_cons]
      unfold guardsHold checkHolds
      cases evaluated : guard.holds row with
      | error e =>
          have valueless : ¬guard.HasValue row := by
            intro valued
            rcases valued with ⟨holds, valued⟩
            rw [evaluated] at valued
            cases valued
          simp [bind, Except.bind, valueless]
      | ok holds =>
          have valued : guard.HasValue row := ⟨holds, evaluated⟩
          change (if holds then guardsHold index row rest else .ok false) = .ok applies ↔ _
          cases holds with
          | true =>
              have met : guard.Holds row := evaluated
              simp [induction, met, valued, (Check.is_met_iff row guard).mpr met]
          | false =>
              have unmet : ¬guard.Holds row := Check.not_holds_of_breaks evaluated
              have unchecked : guard.isMet row = false := by simp [Check.isMet, evaluated]
              simp [unmet, valued, unchecked, eq_comm]

theorem failed_expectations_ok (index : Nat) (row : Row) (guarded : GuardedCase)
    (failed : List String) :
    failedExpectations index row guarded = .ok failed ↔
      (∀ check, GuardReached row guarded.guards check → check.HasValue row) ∧
        (guarded.Applies row → ∀ check ∈ guarded.expected, check.HasValue row) ∧
          failed = guarded.brokenExpectations row := by
  unfold failedExpectations GuardedCase.brokenExpectations
  simp only [except_bind_ok, guards_hold_ok, ← guarded.all_met_iff row]
  cases guarded.guards.all (Check.isMet row) with
  | true => simp [failed_checks_ok]
  | false => simp [eq_comm]

theorem failed_by_case_ok (index : Nat) (row : Row) (cases : List GuardedCase)
    (failed : List (List String)) :
    failedByCase index row cases = .ok failed ↔
      (∀ guarded ∈ cases, ∀ check, GuardReached row guarded.guards check → check.HasValue row) ∧
        (∀ guarded ∈ cases, guarded.Applies row →
          ∀ check ∈ guarded.expected, check.HasValue row) ∧
          failed = cases.map (GuardedCase.brokenExpectations row) := by
  induction cases generalizing failed with
  | nil => simp [failedByCase, eq_comm]
  | cons guarded rest induction =>
      unfold failedByCase
      simp only [except_bind_ok, failed_expectations_ok, induction]
      constructor
      · intro checked
        rcases checked with
          ⟨first, ⟨guards, expected, rfl⟩, others, ⟨restGuards, restExpected, rfl⟩, same⟩
        cases same
        exact ⟨by simpa using ⟨guards, restGuards⟩, by simpa using ⟨expected, restExpected⟩, rfl⟩
      · intro expected
        rcases expected with ⟨guards, expected, rfl⟩
        rw [List.forall_mem_cons] at guards expected
        exact ⟨_, ⟨guards.1, expected.1, rfl⟩, _, ⟨guards.2, expected.2, rfl⟩, rfl⟩

/-- What a row breaks, read off the values of the checks. -/
def rowOutcome (spec : Specification) (index : Nat) (row : Row) : RowOutcome :=
  ⟨index, row, Check.brokenSources row spec.invariants,
    spec.cases.map (GuardedCase.brokenExpectations row)⟩

theorem check_row_ok (spec : Specification) (index : Nat) (row : Row) (outcome : RowOutcome) :
    checkRow spec index row = .ok outcome ↔
      spec.Evaluable row ∧ outcome = rowOutcome spec index row := by
  unfold checkRow
  simp only [except_bind_ok, failed_checks_ok, failed_by_case_ok]
  constructor
  · intro checked
    rcases checked with ⟨invariants, ⟨values, rfl⟩, failed, ⟨guards, expected, rfl⟩, same⟩
    cases same
    refine ⟨?_, rfl⟩
    intro check needed
    cases needed with
    | invariant member => exact values check member
    | guard member reached => exact guards _ member check reached
    | expectation member applies listed => exact expected _ member applies check listed
  · intro expected
    rcases expected with ⟨evaluable, rfl⟩
    refine ⟨_, ⟨?_, rfl⟩, _, ⟨?_, ?_, rfl⟩, rfl⟩
    · intro check member
      exact evaluable check (.invariant member)
    · intro guarded member check reached
      exact evaluable check (.guard member reached)
    · intro guarded member applies check listed
      exact evaluable check (.expectation member applies listed)

end Verification

end QueryCheck

import QueryCheck.Proofs.RowFailures

/-!
# Where a verification ends

A row is checked in one fixed order, and which checks come up depends on the row itself. Verification
fails with the first error in the order of the rows and, within a row, in that order of its checks. It
asks its source for no element behind the one that fails.
-/

namespace QueryCheck

set_option autoImplicit false

/-! ## The order of the checks -/

/-- The guards up to the first that does not hold, that one included. -/
def reachedGuards (row : Row) : List Check → List Check
  | [] => []
  | guard :: rest => guard :: if guard.isMet row then reachedGuards row rest else []

theorem mem_reached_guards (row : Row) (guards : List Check) (check : Check) :
    check ∈ reachedGuards row guards ↔ GuardReached row guards check := by
  induction guards with
  | nil => simp [reachedGuards, GuardReached]
  | cons guard rest induction =>
      rw [guard_reached_cons, ← guard.is_met_iff row, ← induction, reachedGuards, List.mem_cons]
      cases guard.isMet row <;> simp

/-- The checks of a case that come up on a row, in the order in which they do. -/
def GuardedCase.neededChecks (row : Row) (guarded : GuardedCase) : List Check :=
  reachedGuards row guarded.guards ++
    if guarded.guards.all (Check.isMet row) then guarded.expected else []

/-- The checks that come up on a row, in the order in which they do. -/
def Specification.neededChecks (spec : Specification) (row : Row) : List Check :=
  spec.invariants ++ spec.cases.flatMap (GuardedCase.neededChecks row)

theorem GuardedCase.mem_needed_checks (guarded : GuardedCase) (row : Row) (check : Check) :
    check ∈ guarded.neededChecks row ↔
      GuardReached row guarded.guards check ∨ guarded.Applies row ∧ check ∈ guarded.expected := by
  rw [neededChecks, List.mem_append, mem_reached_guards, ← guarded.all_met_iff]
  split <;> rename_i met <;> simp [met]

theorem Specification.mem_needed_checks (spec : Specification) (row : Row) (check : Check) :
    check ∈ spec.neededChecks row ↔ spec.Needed row check := by
  rw [neededChecks, List.mem_append, List.mem_flatMap]
  simp only [GuardedCase.mem_needed_checks]
  constructor
  · intro place
    rcases place with member | ⟨guarded, member, reached | ⟨applies, expected⟩⟩
    · exact .invariant member
    · exact .guard member reached
    · exact .expectation member applies expected
  · intro needed
    cases needed with
    | invariant member => exact .inl member
    | guard member reached => exact .inr ⟨_, member, .inl reached⟩
    | expectation member applies expected => exact .inr ⟨_, member, .inr ⟨applies, expected⟩⟩

/-! ## The first check without a value -/

/-- The first of the listed checks that has no value on the row, with what hinders it. -/
def FailsFirst (row : Row) (checks : List Check) (check : Check)
    (cause : Condition.EvalError) : Prop :=
  ∃ before after, checks = before ++ check :: after ∧
    (∀ earlier ∈ before, earlier.HasValue row) ∧ check.holds row = .error cause

variable {row : Row} {cause : Condition.EvalError}

theorem Check.not_has_value_iff (check : Check) (row : Row) :
    ¬check.HasValue row ↔ ∃ cause, check.holds row = .error cause := by
  unfold HasValue
  cases check.holds row <;> simp

theorem fails_first_cons (first check : Check) (rest : List Check) :
    FailsFirst row (first :: rest) check cause ↔
      check = first ∧ first.holds row = .error cause ∨
        first.HasValue row ∧ FailsFirst row rest check cause := by
  constructor
  · intro fails
    rcases fails with ⟨before, after, split, values, failure⟩
    cases before with
    | nil =>
        cases split
        exact .inl ⟨rfl, failure⟩
    | cons head before =>
        cases split
        rw [List.forall_mem_cons] at values
        exact .inr ⟨values.1, before, after, rfl, values.2, failure⟩
  · intro either
    rcases either with ⟨rfl, failure⟩ | ⟨value, before, after, rfl, values, failure⟩
    · exact ⟨[], rest, rfl, by simp, failure⟩
    · exact ⟨first :: before, after, rfl, List.forall_mem_cons.mpr ⟨value, values⟩, failure⟩

theorem fails_first_append (front back : List Check) (check : Check) :
    FailsFirst row (front ++ back) check cause ↔
      FailsFirst row front check cause ∨
        (∀ earlier ∈ front, earlier.HasValue row) ∧ FailsFirst row back check cause := by
  induction front with
  | nil => simp [FailsFirst]
  | cons first rest induction =>
      rw [List.cons_append, fails_first_cons, fails_first_cons, List.forall_mem_cons, induction]
      tauto

theorem fails_first_or_values (row : Row) (checks : List Check) :
    (∃ check cause, FailsFirst row checks check cause) ∨ ∀ check ∈ checks, check.HasValue row := by
  induction checks with
  | nil => simp
  | cons first rest induction =>
      by_cases value : first.HasValue row
      · rcases induction with ⟨check, cause, fails⟩ | values
        · exact .inl ⟨check, cause, (fails_first_cons ..).mpr (.inr ⟨value, fails⟩)⟩
        · exact .inr (List.forall_mem_cons.mpr ⟨value, values⟩)
      · obtain ⟨cause, failure⟩ := (first.not_has_value_iff row).mp value
        exact .inl ⟨first, cause, (fails_first_cons ..).mpr (.inl ⟨rfl, failure⟩)⟩

theorem FailsFirst.no_values {checks : List Check} {check : Check}
    (fails : FailsFirst row checks check cause) : ¬∀ check ∈ checks, check.HasValue row := by
  intro values
  rcases fails with ⟨before, after, rfl, -, failure⟩
  exact (check.not_has_value_iff row).mpr ⟨cause, failure⟩ (values check (by simp))

/-! ## The error of a row -/

namespace Verification

/-- A traversal of a row whose only errors are those of the first listed check without a value. -/
def Evaluates {α : Type} (index : Nat) (row : Row) (checks : List Check)
    (result : Except VerifyError α) : Prop :=
  ∀ e, result = .error e ↔
    ∃ check cause, FailsFirst row checks check cause ∧ e = .eval index check.source cause

section Traversal

variable {α β : Type} {index : Nat} {checks : List Check} {value : α}

theorem evaluates_ok : Evaluates index row [] (.ok value : Except VerifyError α) := by
  simp [Evaluates, FailsFirst]

theorem Evaluates.values {result : Except VerifyError α} (traversal : Evaluates index row checks result)
    (succeeds : result = .ok value) : ∀ check ∈ checks, check.HasValue row := by
  rcases fails_first_or_values row checks with ⟨check, cause, fails⟩ | values
  · rw [(traversal _).mpr ⟨check, cause, fails, rfl⟩] at succeeds
    cases succeeds
  · exact values

/-- One traversal behind another takes the checks of both in turn. -/
theorem Evaluates.bind {step : Except VerifyError α} {next : α → Except VerifyError β}
    {later : List Check} (first : Evaluates index row checks step)
    (rest : ∀ value, step = .ok value → Evaluates index row later (next value)) :
    Evaluates index row (checks ++ later) (step >>= next) := by
  intro e
  simp only [fails_first_append]
  rw [except_bind_error]
  constructor
  · intro failed
    rcases failed with failed | ⟨value, succeeds, failed⟩
    · obtain ⟨check, cause, fails, same⟩ := (first e).mp failed
      exact ⟨check, cause, .inl fails, same⟩
    · obtain ⟨check, cause, fails, same⟩ := (rest value succeeds e).mp failed
      exact ⟨check, cause, .inr ⟨first.values succeeds, fails⟩, same⟩
  · intro failed
    rcases failed with ⟨check, cause, fails | ⟨values, fails⟩, same⟩
    · exact .inl ((first e).mpr ⟨check, cause, fails, same⟩)
    · right
      cases ended : step with
      | error other =>
          obtain ⟨check, cause, stuck, -⟩ := (first other).mp ended
          exact absurd values stuck.no_values
      | ok value => exact ⟨value, rfl, (rest value ended e).mpr ⟨check, cause, fails, same⟩⟩

theorem Evaluates.map {step : Except VerifyError α} (f : α → β)
    (traversal : Evaluates index row checks step) :
    Evaluates index row checks (step >>= fun value => .ok (f value)) := by
  have both : Evaluates index row (checks ++ []) (step >>= fun value => .ok (f value)) :=
    traversal.bind fun _ _ => evaluates_ok
  rwa [List.append_nil] at both

end Traversal

theorem check_holds_evaluates (index : Nat) (row : Row) (check : Check) :
    Evaluates index row [check] (checkHolds index row check) := by
  intro e
  have nothing : ∀ other cause, ¬FailsFirst row [] other cause := by simp [FailsFirst]
  simp only [fails_first_cons, nothing, and_false, or_false]
  unfold checkHolds
  cases check.holds row <;> simp [eq_comm]

theorem check_holds_ok {index : Nat} {check : Check} {holds : Bool}
    (evaluated : checkHolds index row check = .ok holds) : holds = check.isMet row := by
  unfold checkHolds at evaluated
  unfold Check.isMet
  cases value : check.holds row with
  | error cause =>
      rw [value] at evaluated
      cases evaluated
  | ok other =>
      rw [value] at evaluated
      cases evaluated
      cases holds <;> rfl

theorem failed_checks_evaluates (index : Nat) (row : Row) (checks : List Check) :
    Evaluates index row checks (failedChecks index row checks) := by
  induction checks with
  | nil => exact evaluates_ok
  | cons check rest induction =>
      refine (check_holds_evaluates index row check).bind ?_
      intro holds _
      exact induction.map _

theorem guards_hold_evaluates (index : Nat) (row : Row) (guards : List Check) :
    Evaluates index row (reachedGuards row guards) (guardsHold index row guards) := by
  induction guards with
  | nil => exact evaluates_ok
  | cons guard rest induction =>
      refine (check_holds_evaluates index row guard).bind ?_
      intro holds evaluated
      rw [← check_holds_ok evaluated]
      cases holds with
      | true => exact induction
      | false => exact evaluates_ok

theorem failed_expectations_evaluates (index : Nat) (row : Row) (guarded : GuardedCase) :
    Evaluates index row (guarded.neededChecks row) (failedExpectations index row guarded) := by
  refine (guards_hold_evaluates index row guarded.guards).bind ?_
  intro applies held
  obtain ⟨-, same⟩ := (guards_hold_ok index row guarded.guards applies).mp held
  rw [← same]
  cases applies with
  | true => exact failed_checks_evaluates index row guarded.expected
  | false => exact evaluates_ok

theorem failed_by_case_evaluates (index : Nat) (row : Row) (cases : List GuardedCase) :
    Evaluates index row (cases.flatMap (GuardedCase.neededChecks row))
      (failedByCase index row cases) := by
  induction cases with
  | nil => exact evaluates_ok
  | cons guarded rest induction =>
      rw [List.flatMap_cons]
      refine (failed_expectations_evaluates index row guarded).bind ?_
      intro failed _
      exact induction.map _

theorem check_row_evaluates (spec : Specification) (index : Nat) (row : Row) :
    Evaluates index row (spec.neededChecks row) (checkRow spec index row) := by
  refine (failed_checks_evaluates index row spec.invariants).bind ?_
  intro invariants _
  exact (failed_by_case_evaluates index row spec.cases).map _

end Verification

/-! ## The first error of all rows -/

/-- The first error of elements that are numbered from `start` on. -/
inductive FirstError (spec : Specification) (start : Nat) (items : List (Except QueryError Row)) :
    VerifyError → Prop where
  | rows {before : List Row} {after : List (Except QueryError Row)} {error : QueryError}
      (placed : items = before.map .ok ++ .error error :: after)
      (earlier : ∀ row ∈ before, spec.Evaluable row) :
      FirstError spec start items (.rows (start + before.length) error)
  | eval {before : List Row} {row : Row} {after : List (Except QueryError Row)} {check : Check}
      {cause : Condition.EvalError} (placed : items = before.map .ok ++ .ok row :: after)
      (earlier : ∀ row ∈ before, spec.Evaluable row)
      (first : FailsFirst row (spec.neededChecks row) check cause) :
      FirstError spec start items (.eval (start + before.length) check.source cause)

variable {spec : Specification} {start : Nat} {rest : List (Except QueryError Row)}

theorem first_error_nil (e : VerifyError) : ¬FirstError spec start [] e := by
  intro first
  cases first <;> simp_all

theorem first_error_of_error (error : QueryError) (e : VerifyError) :
    FirstError spec start (.error error :: rest) e ↔ e = .rows start error := by
  constructor
  · intro first
    cases first with
    | @rows before _ _ placed =>
        cases before <;> cases placed
        rfl
    | @eval before _ _ _ _ placed => cases before <;> cases placed
  · rintro rfl
    exact @FirstError.rows spec start _ [] rest error rfl (by simp)

/-- What comes behind a row is looked at only when the row itself is evaluated. -/
theorem first_error_of_row (row : Row) (e : VerifyError) :
    FirstError spec start (.ok row :: rest) e ↔
      (∃ check cause, FailsFirst row (spec.neededChecks row) check cause ∧
        e = .eval start check.source cause) ∨
      spec.Evaluable row ∧ FirstError spec (start + 1) rest e := by
  have number (count : Nat) : start + (count + 1) = start + 1 + count := by omega
  constructor
  · intro first
    cases first with
    | @rows before _ _ placed earlier =>
        cases before with
        | nil => cases placed
        | cons head before =>
            cases placed
            rw [List.forall_mem_cons] at earlier
            rw [List.length_cons, number]
            exact .inr ⟨earlier.1, .rows rfl earlier.2⟩
    | @eval before other _ check cause placed earlier fails =>
        cases before with
        | nil =>
            cases placed
            exact .inl ⟨check, cause, fails, rfl⟩
        | cons head before =>
            cases placed
            rw [List.forall_mem_cons] at earlier
            rw [List.length_cons, number]
            exact .inr ⟨earlier.1, .eval rfl earlier.2 fails⟩
  · intro either
    rcases either with ⟨check, cause, fails, rfl⟩ | ⟨evaluable, first⟩
    · exact @FirstError.eval spec start _ [] row rest check cause rfl (by simp) fails
    · cases first with
      | @rows before _ _ placed earlier =>
          rw [← number, ← List.length_cons (a := row)]
          exact .rows (by rw [placed]; rfl) (List.forall_mem_cons.mpr ⟨evaluable, earlier⟩)
      | @eval before _ _ _ _ placed earlier fails =>
          rw [← number, ← List.length_cons (a := row)]
          exact .eval (by rw [placed]; rfl) (List.forall_mem_cons.mpr ⟨evaluable, earlier⟩) fails

namespace Verification

theorem check_items_error (spec : Specification) (index : Nat)
    (items : List (Except QueryError Row)) (e : VerifyError) :
    checkItems spec index items = .error e ↔ FirstError spec index items e := by
  induction items generalizing index with
  | nil => simp [checkItems, first_error_nil]
  | cons item rest induction =>
      cases item with
      | error error => simp [checkItems, first_error_of_error, eq_comm]
      | ok row =>
          rw [checkItems, except_bind_error, first_error_of_row, check_row_evaluates spec index row e]
          simp only [check_row_ok, except_bind_error, reduceCtorEq, and_false, exists_false, or_false,
            induction]
          simp

end Verification

/-! ## The elements asked for -/

namespace RowSource

variable {σ : Type}

/-- The source with a count of how often it has been asked for an element. -/
def counted (source : RowSource σ) : RowSource (σ × Nat) where
  next s := ((source.next s.1).1, (source.next s.1).2, s.2 + 1)
  bound s := source.bound s.1
  bound_next := by
    intro s item rest taken
    have parts := Prod.mk.inj taken
    refine source.bound_next s.1 item rest.1 ?_
    rw [← parts.1, ← parts.2]

end RowSource

namespace Verification

/-- How often elements numbered from `start` on are asked for: up to the one of the error, or for all of
them and once more for the end. -/
def requests {α : Type} (start : Nat) (items : List (Except QueryError Row)) :
    Except VerifyError α → Nat
  | .error e => e.index + 1
  | .ok _ => start + items.length + 1

theorem check_row_error_index {index : Nat} {row : Row} {e : VerifyError}
    (failed : checkRow spec index row = .error e) : e.index = index := by
  obtain ⟨check, cause, -, rfl⟩ := (check_row_evaluates spec index row e).mp failed
  rfl

/-- Counting changes neither what is found nor where the source is left. -/
theorem check_from_counted {σ : Type} (spec : Specification) (source : RowSource σ)
    (steps index : Nat) (s : σ) (enough : source.bound s < steps) :
    checkFrom spec source.counted steps index (s, index) =
      ((checkFrom spec source steps index s).1, (checkFrom spec source steps index s).2,
        requests index (source.items s) (checkFrom spec source steps index s).1) := by
  induction steps generalizing index s with
  | zero => omega
  | succ steps induction =>
      unfold checkFrom
      simp only [RowSource.counted]
      rcases taken : source.next s with ⟨_ | (e | row), rest⟩
      · rw [source.items_of_end s rest taken]
        rfl
      · rfl
      · -- The count goes along with the number of the row, so the rest starts where it has arrived.
        have smaller := source.bound_next s _ rest taken
        have others := induction (index + 1) rest (by omega)
        simp only [RowSource.counted] at others
        rw [source.items_of_next s rest _ taken]
        dsimp only
        cases checked : checkRow spec index row with
        | error e => simp [requests, check_row_error_index checked]
        | ok outcome =>
            simp only [others]
            rcases checkFrom spec source steps (index + 1) rest with ⟨e | later, left⟩
            · rfl
            · simp only [requests, List.length_cons, Prod.mk.injEq, true_and]
              omega

end Verification

theorem verify_error {σ : Type} (spec : Specification) (source : RowSource σ) (s : σ)
    (e : VerifyError) :
    (verify spec source s).1 = .error e ↔ FirstError spec 0 (source.items s) e := by
  rw [verify_items, ← Verification.check_items_error]
  cases Verification.checkItems spec 0 (source.items s) <;> simp [Except.map]

theorem verify_counted {σ : Type} (spec : Specification) (source : RowSource σ) (s : σ) :
    verify spec source.counted (s, 0) =
      ((verify spec source s).1, (verify spec source s).2,
        Verification.requests 0 (source.items s) (verify spec source s).1) := by
  unfold verify
  have counted := Verification.check_from_counted spec source (source.bound s + 1) 0 s
    (Nat.lt_succ_self _)
  rw [show source.counted.bound (s, 0) = source.bound s from rfl, counted]
  rcases Verification.checkFrom spec source (source.bound s + 1) 0 s with ⟨e | outcomes, rest⟩ <;> rfl

/-- A sequence of elements that cannot all be checked has a first error. -/
theorem first_error_exists (spec : Specification) (start : Nat)
    (items : List (Except QueryError Row)) :
    (∃ e, FirstError spec start items e) ↔
      (∃ error, .error error ∈ items) ∨
        ∃ row check cause, .ok row ∈ items ∧ spec.Needed row check ∧
          check.holds row = .error cause := by
  induction items generalizing start with
  | nil => simp [first_error_nil]
  | cons item rest induction =>
      cases item with
      | error error => simp [first_error_of_error]
      | ok row =>
          simp only [first_error_of_row, List.mem_cons]
          constructor
          · intro first
            rcases first with ⟨e, ⟨check, cause, ⟨before, after, split, -, failure⟩, -⟩ | ⟨-, first⟩⟩
            · have member : check ∈ spec.neededChecks row := by simp [split]
              exact .inr ⟨row, check, cause, .inl rfl, (spec.mem_needed_checks row check).mp member,
                failure⟩
            · rcases (induction (start + 1)).mp ⟨e, first⟩ with
                ⟨error, member⟩ | ⟨other, check, cause, member, failing⟩
              · exact .inl ⟨error, .inr member⟩
              · exact .inr ⟨other, check, cause, .inr member, failing⟩
          · intro hindered
            rcases fails_first_or_values row (spec.neededChecks row) with
              ⟨check, cause, fails⟩ | values
            · exact ⟨_, .inl ⟨check, cause, fails, rfl⟩⟩
            · -- This row is in order, so what hinders the verification is behind it.
              have evaluable : spec.Evaluable row := fun check needed =>
                values check ((spec.mem_needed_checks row check).mpr needed)
              have behind : ∃ e, FirstError spec (start + 1) rest e := by
                rw [induction]
                rcases hindered with ⟨error, same | member⟩ |
                  ⟨other, check, cause, same | member, needed, failure⟩
                · cases same
                · exact .inl ⟨error, member⟩
                · cases same
                  exact absurd (evaluable check needed)
                    ((check.not_has_value_iff row).mpr ⟨cause, failure⟩)
                · exact .inr ⟨other, check, cause, member, needed, failure⟩
              rcases behind with ⟨e, first⟩
              exact ⟨e, .inr ⟨evaluable, first⟩⟩

/-- A verification fails exactly when an element is no row or a needed check has no value. Its error is
the first in the order of the rows and of the checks that come up on each, and nothing is asked for
behind it. -/
theorem verification_ends_at_first_error {σ : Type} (spec : Specification) (source : RowSource σ)
    (s : σ) :
    ((∃ e, (verify spec source s).1 = .error e) ↔
        (∃ error, .error error ∈ source.items s) ∨
          ∃ row check cause, .ok row ∈ source.items s ∧ spec.Needed row check ∧
            check.holds row = .error cause) ∧
      (∀ e, (verify spec source s).1 = .error e ↔ FirstError spec 0 (source.items s) e) ∧
      verify spec source.counted (s, 0) =
        ((verify spec source s).1, (verify spec source s).2,
          Verification.requests 0 (source.items s) (verify spec source s).1) := by
  refine ⟨?_, verify_error spec source s, verify_counted spec source s⟩
  simp only [verify_error]
  exact first_error_exists spec 0 (source.items s)

end QueryCheck

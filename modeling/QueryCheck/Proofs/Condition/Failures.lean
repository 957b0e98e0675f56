import QueryCheck.Condition.Evaluation
import QueryCheck.Proofs.Condition.Parts
import QueryCheck.Proofs.Except

/-!
# Where the error of an evaluation comes from

Operations on values neither miss a column nor an argument. Such an error comes from a node inside the
expression: a field that the row does not have, or a call without arguments.
-/

namespace QueryCheck.Condition

set_option autoImplicit false

/-! ## Errors of operations -/

/-- The error says something about values, and not that a column or an argument is missing. -/
def EvalError.OfValues : EvalError → Prop
  | .unknownField _ => False
  | .argumentMissing _ => False
  | _ => True

/-- A computation that, if it fails, does so for its values. -/
def FailsOnValues {α : Type} (computation : Except EvalError α) : Prop :=
  ∀ e, computation = .error e → e.OfValues

theorem fails_on_values_ok {α : Type} (value : α) : FailsOnValues (.ok value) :=
  nofun

theorem fails_on_values_error {α : Type} {e : EvalError} (values : e.OfValues) :
    FailsOnValues (.error e : Except EvalError α) := by
  intro same failed
  cases failed
  exact values

theorem fails_on_values_map {α β : Type} {computation : Except EvalError α} (f : α → β)
    (values : FailsOnValues computation) : FailsOnValues (computation.map f) := by
  cases computation with
  | ok value => exact fails_on_values_ok (f value)
  | error e => exact fails_on_values_error (values e rfl)

theorem checked_fails_on_values {α : Type} (op : Arithmetic) (make : α → Value) (result : Option α) :
    FailsOnValues (Value.checked op make result) := by
  cases result with
  | none => exact fails_on_values_error trivial
  | some value => exact fails_on_values_ok (make value)

theorem int_arithmetic_fails_on_values (op : Arithmetic) (a b : Int64) :
    FailsOnValues (Value.intArithmetic op a b) := by
  unfold Value.intArithmetic
  cases op <;> dsimp only <;> repeat' split
  all_goals
    first
    | exact fails_on_values_ok _
    | exact fails_on_values_error trivial
    | exact checked_fails_on_values _ _ _

theorem decimal_arithmetic_fails_on_values (op : Arithmetic) (a b : Decimal) :
    FailsOnValues (Value.decimalArithmetic op a b) := by
  unfold Value.decimalArithmetic
  cases op <;> dsimp only <;> repeat' split
  all_goals first | exact fails_on_values_error trivial | exact checked_fails_on_values _ _ _

theorem float_arithmetic_fails_on_values (op : Arithmetic) (x y : Float) :
    FailsOnValues (Value.floatArithmetic op x y) := by
  unfold Value.floatArithmetic
  cases op <;> dsimp only <;> repeat' split
  all_goals first | exact fails_on_values_ok _ | exact fails_on_values_error trivial

theorem arithmetic_fails_on_values (op : Arithmetic) (left right : Value) :
    FailsOnValues (Value.arithmetic op left right) := by
  unfold Value.arithmetic
  split
  · exact fails_on_values_ok _
  · exact fails_on_values_ok _
  · exact int_arithmetic_fails_on_values op _ _
  · split
    · exact decimal_arithmetic_fails_on_values op _ _
    · split
      · exact float_arithmetic_fails_on_values op _ _
      · split
        · exact fails_on_values_ok _
        · exact fails_on_values_ok _
        · exact fails_on_values_error trivial

theorem negate_fails_on_values (v : Value) : FailsOnValues v.negate := by
  unfold Value.negate
  repeat' split
  all_goals first | exact fails_on_values_ok _ | exact fails_on_values_error trivial

theorem apply_fails_on_values (builtin : Builtin) (argument : Value) :
    FailsOnValues (builtin.apply argument) := by
  intro e
  fun_cases Builtin.apply builtin argument
  all_goals
    intro failed
    cases failed
  · trivial
  · trivial

theorem contains_fails_on_values (container needle : Value) :
    FailsOnValues (container.contains needle) := by
  unfold Value.contains
  split
  · exact fails_on_values_ok _
  · exact fails_on_values_ok _
  · exact fails_on_values_error trivial
  · exact fails_on_values_ok _
  · exact fails_on_values_error trivial

theorem ordered_fails_on_values (op : Comparison) (accepts : Ordering → Bool) (left right : Value) :
    FailsOnValues (Value.ordered op accepts left right) := by
  unfold Value.ordered
  split
  · exact fails_on_values_ok _
  · split
    · exact fails_on_values_ok _
    · exact fails_on_values_ok _
    · rename_i fault _
      exact fails_on_values_error (by cases fault <;> trivial)

theorem compare_fails_on_values (op : Comparison) (left right : Value) :
    FailsOnValues (Value.compare op left right) := by
  cases op with
  | equal => exact fails_on_values_ok _
  | identical => exact fails_on_values_ok _
  | notEqual => exact fails_on_values_ok _
  | notIdentical => exact fails_on_values_ok _
  | isIn => exact contains_fails_on_values right left
  | notIn => exact fails_on_values_map _ (contains_fails_on_values right left)
  | _ => exact ordered_fails_on_values _ _ left right

namespace Expr

/-! ## One node -/

theorem eval_without_argument (row : Row) {builtin : Builtin} (single : builtin ≠ .coalesce) :
    (call builtin []).eval row = .error (.argumentMissing builtin) := by
  cases builtin with
  | coalesce => contradiction
  | _ => rfl

theorem eval_argument (row : Row) {builtin : Builtin} (single : builtin ≠ .coalesce)
    (argument : Expr) (rest : List Expr) :
    (call builtin (argument :: rest)).eval row =
      argument.eval row >>= fun value =>
        if value.isNull then .ok .null else builtin.apply value := by
  cases builtin with
  | coalesce => contradiction
  | _ => rfl

/-! ## What is missing -/

/-- The expression itself fails: the row has no such column, or the call no argument. -/
inductive Lacks (row : Row) : Expr → EvalError → Prop where
  | column {name : String} (absent : Fields.get? name row = none) :
      Lacks row (field name) (.unknownField name)
  | argument {builtin : Builtin} (single : builtin ≠ .coalesce) :
      Lacks row (call builtin []) (.argumentMissing builtin)

section failures

variable {row : Row} {error : EvalError} (lack : ¬error.OfValues)
include lack

/-- What follows a step does not fail in this way, so the step does. -/
theorem step_failed {α β : Type} {step : Except EvalError α} {next : α → Except EvalError β}
    (values : ∀ value, FailsOnValues (next value)) (failed : (step >>= next) = .error error) :
    step = .error error := by
  rcases except_bind_error.mp failed with failed | ⟨value, -, failed⟩
  · exact failed
  · exact absurd (values value error failed) lack

theorem all_failed {items : List Expr} (failed : evalAll row items = .error error) :
    ∃ item ∈ items, item.eval row = .error error := by
  induction items with
  | nil => cases failed
  | cons item rest induction =>
      rw [evalAll] at failed
      rcases except_bind_error.mp failed with failed | ⟨value, -, failed⟩
      · exact ⟨item, List.mem_cons_self, failed⟩
      · obtain ⟨other, member, origin⟩ :=
          induction (step_failed lack (fun _ => fails_on_values_ok _) failed)
        exact ⟨other, List.mem_cons_of_mem item member, origin⟩

omit lack in
theorem first_failed {items : List Expr} (failed : evalFirst row items = .error error) :
    ∃ item ∈ items, item.eval row = .error error := by
  induction items with
  | nil => cases failed
  | cons item rest induction =>
      rw [evalFirst] at failed
      rcases except_bind_error.mp failed with failed | ⟨value, -, failed⟩
      · exact ⟨item, List.mem_cons_self, failed⟩
      · split at failed
        · obtain ⟨other, member, origin⟩ := induction failed
          exact ⟨other, List.mem_cons_of_mem item member, origin⟩
        · cases failed

theorem links_failed {left : Value} {links : List (Comparison × Expr)}
    (failed : evalLinks row left links = .error error) :
    ∃ operand ∈ links.map Prod.snd, operand.eval row = .error error := by
  induction links generalizing left with
  | nil => cases failed
  | cons link rest induction =>
      rw [evalLinks] at failed
      rcases except_bind_error.mp failed with failed | ⟨right, -, failed⟩
      · exact ⟨link.2, List.mem_cons_self, failed⟩
      · rcases except_bind_error.mp failed with failed | ⟨holds, -, failed⟩
        · exact absurd (compare_fails_on_values link.1 left right error failed) lack
        · split at failed
          · obtain ⟨operand, member, origin⟩ := induction failed
            exact ⟨operand, List.mem_cons_of_mem link.2 member, origin⟩
          · cases failed

/-- What is missing is missing in the expression itself or in a part. -/
theorem failed_parts {e : Expr} (failed : e.eval row = .error error) :
    e.Lacks row error ∨ ∃ part ∈ e.parts, part.eval row = .error error := by
  cases e with
  | literal value => cases failed
  | field column =>
      left
      rw [eval] at failed
      split at failed
      · cases failed
      · rename_i absent
        cases failed
        exact .column absent
  | list items =>
      right
      rw [eval] at failed
      exact all_failed lack (step_failed lack (fun _ => fails_on_values_ok _) failed)
  | neg operand =>
      right
      rw [eval] at failed
      exact ⟨operand, List.mem_singleton.mpr rfl, step_failed lack negate_fails_on_values failed⟩
  | not operand =>
      right
      rw [eval] at failed
      exact ⟨operand, List.mem_singleton.mpr rfl,
        step_failed lack (fun _ => fails_on_values_ok _) failed⟩
  | and left right =>
      right
      rw [eval] at failed
      rcases except_bind_error.mp failed with failed | ⟨value, -, failed⟩
      · exact ⟨left, by simp [parts], failed⟩
      · split at failed
        · exact ⟨_, by simp [parts], step_failed lack (fun _ => fails_on_values_ok _) failed⟩
        · cases failed
  | or left right =>
      right
      rw [eval] at failed
      rcases except_bind_error.mp failed with failed | ⟨value, -, failed⟩
      · exact ⟨left, by simp [parts], failed⟩
      · split at failed
        · cases failed
        · exact ⟨_, by simp [parts], step_failed lack (fun _ => fails_on_values_ok _) failed⟩
  | arithmetic op left right =>
      right
      rw [eval] at failed
      rcases except_bind_error.mp failed with failed | ⟨value, -, failed⟩
      · exact ⟨left, by simp [parts], failed⟩
      · exact ⟨_, by simp [parts],
          step_failed lack (fun _ => arithmetic_fails_on_values op _ _) failed⟩
  | compare first links =>
      right
      rw [eval] at failed
      rcases except_bind_error.mp failed with failed | ⟨value, -, failed⟩
      · exact ⟨first, List.mem_cons_self, failed⟩
      · obtain ⟨operand, member, origin⟩ := links_failed lack failed
        exact ⟨operand, List.mem_cons_of_mem first member, origin⟩
  | call builtin arguments =>
      by_cases coalesces : builtin = .coalesce
      · subst coalesces
        rw [eval] at failed
        exact .inr (first_failed failed)
      · cases arguments with
        | nil =>
            rw [eval_without_argument row coalesces] at failed
            cases failed
            exact .inl (.argument coalesces)
        | cons argument rest =>
            rw [eval_argument row coalesces] at failed
            rcases except_bind_error.mp failed with failed | ⟨value, -, failed⟩
            · exact .inr ⟨argument, List.mem_cons_self, failed⟩
            · split at failed
              · cases failed
              · exact absurd (apply_fails_on_values builtin value error failed) lack

theorem lacking_node {e : Expr} (failed : e.eval row = .error error) :
    ∃ place node, e.At place node ∧ node.Lacks row error := by
  induction e using parts_induction with
  | step e each =>
      rcases failed_parts lack failed with itself | ⟨part, member, failed⟩
      · exact ⟨[], e, .root e, itself⟩
      · obtain ⟨place, node, below, lacks⟩ := each part member failed
        obtain ⟨number, numbered⟩ := List.getElem?_of_mem member
        exact ⟨number :: place, node, .inside numbered below, lacks⟩

end failures

end Expr

end QueryCheck.Condition

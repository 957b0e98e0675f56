import QueryCheck.Condition.Evaluation
import QueryCheck.Proofs.Condition.Parts

/-!
# What an evaluation visits

The evaluation of a condition once more, with a record of the expressions that it visits. An expression
is visited when its evaluation begins, so one that fails is in the record, and one that is never reached
is not.
-/

namespace QueryCheck.Condition

set_option autoImplicit false

/-- An outcome behind the expressions that were visited for it. -/
structure Traced (α : Type) where
  visited : List Expr
  outcome : Except EvalError α

namespace Traced

variable {α β : Type}

def lift (outcome : Except EvalError α) : Traced α :=
  ⟨[], outcome⟩

def visit (e : Expr) (evaluation : Traced α) : Traced α :=
  ⟨e :: evaluation.visited, evaluation.outcome⟩

instance : Monad Traced where
  pure value := lift (.ok value)
  bind step next :=
    match step.outcome with
    | .ok value => ⟨step.visited ++ (next value).visited, (next value).outcome⟩
    | .error e => ⟨step.visited, .error e⟩

theorem bind_of_ok {step : Traced α} {value : α} (next : α → Traced β)
    (succeeds : step.outcome = .ok value) :
    step >>= next = ⟨step.visited ++ (next value).visited, (next value).outcome⟩ := by
  simp only [bind, succeeds]

theorem bind_of_error {step : Traced α} {e : EvalError} (next : α → Traced β)
    (fails : step.outcome = .error e) : step >>= next = ⟨step.visited, .error e⟩ := by
  simp only [bind, fails]

theorem outcome_bind (step : Traced α) (next : α → Traced β) :
    (step >>= next).outcome = step.outcome >>= fun value => (next value).outcome := by
  cases result : step.outcome with
  | ok value => rw [bind_of_ok next result]; rfl
  | error e => rw [bind_of_error next result]; rfl

end Traced

namespace Expr

mutual

def trace (row : Row) : Expr → Traced Value
  | e@(literal value) => .visit e (.lift (.ok value.value))
  | e@(field name) => .visit e <| .lift <|
    match Fields.get? name row with
    | some value => .ok value
    | none => .error (.unknownField name)
  | e@(list items) => .visit e do
    let values ← traceAll row items
    return .array values
  | e@(neg operand) => .visit e do
    let value ← trace row operand
    .lift value.negate
  | e@(not operand) => .visit e do
    let value ← trace row operand
    return .bool (!value.isTruthy)
  | e@(and left right) => .visit e do
    let first ← trace row left
    if first.isTruthy then
      let second ← trace row right
      return .bool second.isTruthy
    else return .bool false
  | e@(or left right) => .visit e do
    let first ← trace row left
    if first.isTruthy then return .bool true
    else
      let second ← trace row right
      return .bool second.isTruthy
  | e@(arithmetic op left right) => .visit e do
    let first ← trace row left
    let second ← trace row right
    .lift (Value.arithmetic op first second)
  | e@(compare first links) => .visit e do
    let value ← trace row first
    traceLinks row value links
  | e@(call .coalesce arguments) => .visit e (traceFirst row arguments)
  | e@(call builtin []) => .visit e (.lift (.error (.argumentMissing builtin)))
  | e@(call builtin (argument :: _)) => .visit e do
    let value ← trace row argument
    if value.isNull then return .null else .lift (builtin.apply value)

def traceAll (row : Row) : List Expr → Traced (List Value)
  | [] => return []
  | item :: rest => do
    let value ← trace row item
    let values ← traceAll row rest
    return value :: values

def traceLinks (row : Row) (left : Value) : List (Comparison × Expr) → Traced Value
  | [] => return .bool true
  | (op, operand) :: rest => do
    let right ← trace row operand
    let holds ← Traced.lift (Value.compare op left right)
    if holds then traceLinks row right rest else return .bool false

def traceFirst (row : Row) : List Expr → Traced Value
  | [] => return .null
  | argument :: rest => do
    let value ← trace row argument
    if value.isNull then traceFirst row rest else return value

end

/-- The expressions that are visited when the expression is evaluated, each when its evaluation
begins. -/
def visits (row : Row) (e : Expr) : List Expr :=
  (e.trace row).visited

/-! ## The record does not tell in the outcome -/

section Outcome

variable {row : Row}

theorem all_outcome {items : List Expr}
    (each : ∀ item ∈ items, (item.trace row).outcome = item.eval row) :
    (traceAll row items).outcome = evalAll row items := by
  induction items with
  | nil => rfl
  | cons item rest induction =>
      rw [List.forall_mem_cons] at each
      rw [traceAll, evalAll, Traced.outcome_bind, each.1]
      simp only [Traced.outcome_bind, induction each.2]
      rfl

theorem first_outcome {items : List Expr}
    (each : ∀ item ∈ items, (item.trace row).outcome = item.eval row) :
    (traceFirst row items).outcome = evalFirst row items := by
  induction items with
  | nil => rfl
  | cons item rest induction =>
      rw [List.forall_mem_cons] at each
      rw [traceFirst, evalFirst, Traced.outcome_bind, each.1]
      simp only [apply_ite, induction each.2]
      rfl

theorem links_outcome {links : List (Comparison × Expr)}
    (each : ∀ operand ∈ links.map Prod.snd, (operand.trace row).outcome = operand.eval row)
    (left : Value) : (traceLinks row left links).outcome = evalLinks row left links := by
  induction links generalizing left with
  | nil => rfl
  | cons link rest induction =>
      rw [List.map_cons, List.forall_mem_cons] at each
      rw [traceLinks, evalLinks, Traced.outcome_bind, each.1]
      simp only [Traced.outcome_bind, apply_ite, induction each.2]
      rfl

theorem trace_outcome (row : Row) (e : Expr) : (e.trace row).outcome = e.eval row := by
  induction e using parts_induction with
  | step e each =>
      cases e with
      | literal value => rfl
      | field name => rfl
      | list items =>
          have all : (traceAll row items).outcome = evalAll row items := all_outcome each
          rw [trace, eval, ← all]
          exact Traced.outcome_bind _ _
      | neg operand =>
          rw [trace, eval, ← each operand (by simp [parts])]
          exact Traced.outcome_bind _ _
      | not operand =>
          rw [trace, eval, ← each operand (by simp [parts])]
          exact Traced.outcome_bind _ _
      | and left right =>
          rw [trace, eval, ← each left (by simp [parts]), ← each right (by simp [parts])]
          simp only [Traced.visit, Traced.outcome_bind, apply_ite]
          rfl
      | or left right =>
          rw [trace, eval, ← each left (by simp [parts]), ← each right (by simp [parts])]
          simp only [Traced.visit, Traced.outcome_bind, apply_ite]
          rfl
      | arithmetic op left right =>
          rw [trace, eval, ← each left (by simp [parts]), ← each right (by simp [parts])]
          simp only [Traced.visit, Traced.outcome_bind]
          rfl
      | compare first links =>
          rw [parts, List.forall_mem_cons] at each
          rw [trace, eval, ← each.1]
          simp only [Traced.visit, Traced.outcome_bind, links_outcome each.2]
      | call builtin arguments =>
          cases builtin with
          | coalesce =>
              rw [trace, eval]
              exact first_outcome each
          | _ =>
              cases arguments with
              | nil => rfl
              | cons argument rest =>
                  have same := each argument List.mem_cons_self
                  simp only [trace, eval, ← same, Traced.visit, Traced.outcome_bind, apply_ite]
                  rfl

theorem trace_eq (row : Row) (e : Expr) : e.trace row = ⟨e.visits row, e.eval row⟩ := by
  rw [← trace_outcome, visits]

theorem trace_eq_iff {e : Expr} {visited : List Expr} {outcome : Except EvalError Value} :
    e.trace row = ⟨visited, outcome⟩ ↔ e.visits row = visited ∧ e.eval row = outcome := by
  rw [trace_eq, Traced.mk.injEq]

theorem trace_bind_of_ok {e : Expr} {value : Value} (next : Value → Traced Value)
    (known : e.eval row = .ok value) :
    e.trace row >>= next = ⟨e.visits row ++ (next value).visited, (next value).outcome⟩ :=
  Traced.bind_of_ok next ((trace_outcome row e).trans known)

theorem trace_bind_of_error {e : Expr} {error : EvalError} (next : Value → Traced Value)
    (fails : e.eval row = .error error) : e.trace row >>= next = ⟨e.visits row, .error error⟩ :=
  Traced.bind_of_error next ((trace_outcome row e).trans fails)

end Outcome

end Expr

end QueryCheck.Condition

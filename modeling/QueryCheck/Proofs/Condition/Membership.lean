import Mathlib.Data.List.Forall2
import QueryCheck.Condition.Evaluation
import QueryCheck.Proofs.Except
import QueryCheck.Proofs.Value.Converse

/-!
# Membership as a chain of equalities

Being in a written list is being equal to one of its items, and not being in it is being unequal to each.
Membership compares the item with the value and the chain the value with the item, so that the symmetry of
equality carries one to the other.
-/

namespace QueryCheck.Condition.Expr

set_option autoImplicit false

/-- `x == first or x == e₂ or …`, grouped from the left -/
def anyEqual (x first : Expr) (rest : List Expr) : Expr :=
  (rest.map fun item => compare x [(.equal, item)]).foldl or (compare x [(.equal, first)])

/-- `x != first and x != e₂ and …`, grouped from the left -/
def noneEqual (x first : Expr) (rest : List Expr) : Expr :=
  (rest.map fun item => compare x [(.notEqual, item)]).foldl and (compare x [(.notEqual, first)])

variable {row : Row}

/-- The expression has this truth value on the row. -/
def Decides (row : Row) (e : Expr) (verdict : Bool) : Prop :=
  e.eval row = .ok (.bool verdict)

theorem decides_compare {x item : Expr} {op : Comparison} {left right : Value} {verdict : Bool}
    (known : x.eval row = .ok left) (operand : item.eval row = .ok right)
    (compared : Value.compare op left right = .ok verdict) :
    Decides row (compare x [(op, item)]) verdict := by
  rw [Decides, eval]
  refine except_bind_ok.mpr ⟨left, known, ?_⟩
  rw [evalLinks]
  refine except_bind_ok.mpr ⟨right, operand, except_bind_ok.mpr ⟨verdict, compared, ?_⟩⟩
  cases verdict <;> rfl

theorem decides_or {left right : Expr} {p q : Bool} (first : Decides row left p)
    (second : Decides row right q) : Decides row (or left right) (p || q) := by
  rw [Decides, eval]
  refine except_bind_ok.mpr ⟨_, first, ?_⟩
  cases p with
  | true => rfl
  | false => exact except_bind_ok.mpr ⟨_, second, rfl⟩

theorem decides_and {left right : Expr} {p q : Bool} (first : Decides row left p)
    (second : Decides row right q) : Decides row (and left right) (p && q) := by
  rw [Decides, eval]
  refine except_bind_ok.mpr ⟨_, first, ?_⟩
  cases p with
  | true => exact except_bind_ok.mpr ⟨_, second, rfl⟩
  | false => rfl

theorem decides_foldl {join : Expr → Expr → Expr} {combine : Bool → Bool → Bool}
    (joins : ∀ {left right : Expr} {p q : Bool}, Decides row left p → Decides row right q →
      Decides row (join left right) (combine p q))
    {others : List Expr} {verdicts : List Bool} (each : List.Forall₂ (Decides row) others verdicts)
    {start : Expr} {verdict : Bool} (known : Decides row start verdict) :
    Decides row (others.foldl join start) (verdicts.foldl combine verdict) := by
  induction each generalizing start verdict with
  | nil => exact known
  | cons first _ induction => exact induction (joins known first)

theorem eval_all_values {items : List Expr} (each : ∀ item ∈ items, ∃ v, item.eval row = .ok v) :
    ∃ values, evalAll row items = .ok values ∧
      List.Forall₂ (fun item v => item.eval row = .ok v) items values := by
  induction items with
  | nil => exact ⟨[], rfl, .nil⟩
  | cons item rest induction =>
      rw [List.forall_mem_cons] at each
      obtain ⟨value, known⟩ := each.1
      obtain ⟨values, all, related⟩ := induction each.2
      refine ⟨value :: values, ?_, .cons known related⟩
      rw [evalAll]
      exact except_bind_ok.mpr ⟨value, known, except_bind_ok.mpr ⟨values, all, rfl⟩⟩

theorem eval_list {items : List Expr} {values : List Value} (all : evalAll row items = .ok values) :
    (list items).eval row = .ok (.array values) := by
  rw [eval]
  exact except_bind_ok.mpr ⟨values, all, rfl⟩

theorem foldl_or (verdicts : List Bool) (start : Bool) :
    verdicts.foldl Bool.or start = (start || verdicts.any id) := by
  induction verdicts generalizing start with
  | nil => simp
  | cons verdict rest induction => simp [induction, Bool.or_assoc]

/-- The inequalities of a chain are the denied equalities, joined by the other connective. -/
theorem foldl_and_not (verdicts : List Bool) (start : Bool) :
    (verdicts.map Bool.not).foldl Bool.and (!start) = !verdicts.foldl Bool.or start := by
  induction verdicts generalizing start with
  | nil => rfl
  | cons verdict rest induction =>
      rw [List.map_cons, List.foldl_cons, List.foldl_cons, ← induction, Bool.not_or]

theorem decides_links {x : Expr} {value : Value} {items : List Expr} {values : List Value}
    (op : Comparison) (test : Value → Bool) (known : x.eval row = .ok value)
    (related : List.Forall₂ (fun item v => item.eval row = .ok v) items values)
    (tested : ∀ v, Value.compare op value v = .ok (test v)) :
    List.Forall₂ (Decides row) (items.map fun item => compare x [(op, item)]) (values.map test) := by
  rw [List.forall₂_map_left_iff, List.forall₂_map_right_iff]
  exact related.imp fun item v operand => decides_compare known operand (tested v)

theorem exists_value_iff {items : List Expr} {values : List Value} {P : Value → Prop}
    (related : List.Forall₂ (fun item v => item.eval row = .ok v) items values) :
    (∃ v ∈ values, P v) ↔ ∃ item ∈ items, ∃ v, item.eval row = .ok v ∧ P v := by
  induction related with
  | nil => simp
  | cons operand _ induction => simp [operand, induction]

theorem contains_eq_any (values : List Value) (needle : Value) :
    Value.contains (.array values) needle = .ok (values.any needle.equal) := by
  have swapped : (fun item : Value => item.equal needle) = needle.equal :=
    funext fun item => Value.equal_comm item needle
  rw [Value.contains, swapped]

/-- Where the value and the items of a written list can be evaluated, membership and its chain of equalities
have one truth value, which is whether the value equals some item, and the denied membership and its chain
of inequalities have the other. -/
theorem membership_is_disjunction {x first : Expr} {rest : List Expr} {row : Row} {value : Value}
    (known : x.eval row = .ok value) (each : ∀ item ∈ first :: rest, ∃ v, item.eval row = .ok v) :
    ∃ found : Bool,
      (found = true ↔ ∃ item ∈ first :: rest, ∃ v, item.eval row = .ok v ∧ value.equal v = true) ∧
      (compare x [(.isIn, list (first :: rest))]).eval row = .ok (.bool found) ∧
      (anyEqual x first rest).eval row = .ok (.bool found) ∧
      (compare x [(.notIn, list (first :: rest))]).eval row = .ok (.bool !found) ∧
      (noneEqual x first rest).eval row = .ok (.bool !found) := by
  obtain ⟨values, all, related⟩ := eval_all_values each
  have listed := eval_list all
  have contained := contains_eq_any values value
  refine ⟨values.any value.equal, ?_, decides_compare known listed contained, ?_, ?_, ?_⟩
  · rw [List.any_eq_true]
    exact exists_value_iff related
  · cases related with
    | cons operand others =>
        have start : Decides row (compare x [(.equal, first)]) _ := decides_compare known operand rfl
        have chain := decides_foldl decides_or (decides_links .equal _ known others fun _ => rfl) start
        rw [foldl_or, List.any_map] at chain
        exact chain
  · exact decides_compare known listed (congrArg (Except.map _) contained)
  · cases related with
    | cons operand others =>
        have start : Decides row (compare x [(.notEqual, first)]) _ := decides_compare known operand rfl
        have chain := decides_foldl decides_and
          (decides_links .notEqual (Bool.not ∘ value.equal) known others fun _ => rfl) start
        rw [← List.map_map, foldl_and_not, foldl_or, List.any_map] at chain
        exact chain

def dueRow : Row := [("due", .date Value.marchFirst)]

def dueDays : List Expr := [literal .null, literal (.string "2024-03-01")]

theorem due_membership_is_disjunction :
    (field "due").eval dueRow = .ok (.date Value.marchFirst) ∧
      (∀ item ∈ dueDays, ∃ v, item.eval dueRow = .ok v) ∧
      (compare (field "due") [(.isIn, list dueDays)]).eval dueRow = .ok (.bool true) ∧
      (anyEqual (field "due") (literal .null) [literal (.string "2024-03-01")]).eval dueRow =
        .ok (.bool true) := by
  have known : (field "due").eval dueRow = .ok (.date Value.marchFirst) := rfl
  have each : ∀ item ∈ dueDays, ∃ v, item.eval dueRow = .ok v := by
    rw [dueDays, List.forall_mem_cons, List.forall_mem_singleton]
    exact ⟨⟨_, rfl⟩, ⟨_, rfl⟩⟩
  obtain ⟨found, equal, within, chain, -⟩ := membership_is_disjunction known each
  obtain rfl : found = true :=
    equal.mpr ⟨literal (.string "2024-03-01"), List.mem_cons_of_mem _ List.mem_cons_self, _, rfl, rfl⟩
  exact ⟨known, each, within, chain⟩

end QueryCheck.Condition.Expr

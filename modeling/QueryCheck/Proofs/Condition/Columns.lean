import QueryCheck.Proofs.Condition.Failures

/-!
# The columns of a condition

The value of an expression depends on a row through the fields of the expression only, and no other
column can be found missing.
-/

namespace QueryCheck.Condition

set_option autoImplicit false

namespace Expr

/-! ## Rows that agree -/

variable {left right : Row}

theorem all_agree {items : List Expr}
    (agree : ∀ item ∈ items, item.eval left = item.eval right) :
    evalAll left items = evalAll right items := by
  induction items with
  | nil => rfl
  | cons item rest induction =>
      rw [List.forall_mem_cons] at agree
      rw [evalAll, evalAll, agree.1, induction agree.2]

theorem first_agree {items : List Expr}
    (agree : ∀ item ∈ items, item.eval left = item.eval right) :
    evalFirst left items = evalFirst right items := by
  induction items with
  | nil => rfl
  | cons item rest induction =>
      rw [List.forall_mem_cons] at agree
      rw [evalFirst, evalFirst, agree.1, induction agree.2]

theorem links_agree {links : List (Comparison × Expr)}
    (agree : ∀ operand ∈ links.map Prod.snd, operand.eval left = operand.eval right)
    (value : Value) : evalLinks left value links = evalLinks right value links := by
  induction links generalizing value with
  | nil => rfl
  | cons link rest induction =>
      rw [List.map_cons, List.forall_mem_cons] at agree
      rw [evalLinks, evalLinks, agree.1]
      simp only [induction agree.2]

/-- A row tells in an expression through its parts, and in a field node through the column. -/
theorem parts_agree {e : Expr} (agree : ∀ part ∈ e.parts, part.eval left = part.eval right)
    (column : ∀ name, e = field name → Fields.get? name left = Fields.get? name right) :
    e.eval left = e.eval right := by
  cases e with
  | literal value => rfl
  | field name => rw [eval, eval, column name rfl]
  | list items =>
      have all : evalAll left items = evalAll right items := all_agree agree
      rw [eval, eval, all]
  | neg operand => rw [eval, eval, agree operand (by simp [parts])]
  | not operand => rw [eval, eval, agree operand (by simp [parts])]
  | and first second =>
      rw [eval, eval, agree first (by simp [parts]), agree second (by simp [parts])]
  | or first second =>
      rw [eval, eval, agree first (by simp [parts]), agree second (by simp [parts])]
  | arithmetic op first second =>
      rw [eval, eval, agree first (by simp [parts]), agree second (by simp [parts])]
  | compare first links =>
      rw [parts, List.forall_mem_cons] at agree
      rw [eval, eval, agree.1]
      simp only [links_agree agree.2]
  | call builtin arguments =>
      by_cases coalesces : builtin = .coalesce
      · subst coalesces
        rw [eval, eval]
        exact first_agree agree
      · cases arguments with
        | nil => rw [eval_without_argument left coalesces, eval_without_argument right coalesces]
        | cons argument rest =>
            rw [eval_argument left coalesces, eval_argument right coalesces,
              agree argument List.mem_cons_self]

theorem uses_of_part {e part : Expr} {name : String} (member : part ∈ e.parts)
    (use : ∃ place, part.Uses place name) : ∃ place, e.Uses place name := by
  obtain ⟨number, numbered⟩ := List.getElem?_of_mem member
  obtain ⟨place, below⟩ := use
  exact ⟨number :: place, .inside numbered below⟩

theorem eval_agree {e : Expr}
    (agree : ∀ name, (∃ place, e.Uses place name) → Fields.get? name left = Fields.get? name right) :
    e.eval left = e.eval right := by
  induction e using parts_induction with
  | step e each =>
      refine parts_agree ?_ ?_
      · intro part member
        exact each part member fun name use => agree name (uses_of_part member use)
      · rintro name rfl
        exact agree name ⟨[], .root _⟩

theorem missed_is_used {row : Row} {e : Expr} {name : String}
    (misses : e.eval row = .error (.unknownField name)) :
    (∃ place, e.Uses place name) ∧ Fields.get? name row = none := by
  obtain ⟨place, node, inside, lacks⟩ := lacking_node id misses
  cases lacks with
  | column absent => exact ⟨⟨place, inside⟩, absent⟩

/-- The fields are the names of the field nodes, each once and in the order of their first uses. They
settle the value on a row, and no column besides them is ever found missing. -/
theorem fields_settle_value (e : Expr) :
    e.fields.Nodup ∧
    (∀ name, name ∈ e.fields ↔ ∃ place, e.At place (.field name)) ∧
    e.fields.Pairwise (fun earlier later => ∃ place, e.At place (.field earlier) ∧
      ∀ other, e.At other (.field later) → place < other) ∧
    (∀ left right : Row, (∀ name ∈ e.fields, Fields.get? name left = Fields.get? name right) →
      e.eval left = e.eval right) ∧
    (∀ (row : Row) (name : String), e.eval row = .error (.unknownField name) →
      name ∈ e.fields ∧ Fields.get? name row = none) ∧
    (∀ row : Row, (∀ name ∈ e.fields, (Fields.get? name row).isSome) →
      ∀ name, e.eval row ≠ .error (.unknownField name)) := by
  have missing : ∀ (row : Row) (name : String), e.eval row = .error (.unknownField name) →
      name ∈ e.fields ∧ Fields.get? name row = none := by
    intro row name misses
    obtain ⟨use, absent⟩ := missed_is_used misses
    exact ⟨(mem_fields e name).mpr use, absent⟩
  refine ⟨first_uses_nodup e.mentions, mem_fields e, fields_ascending e, ?_, missing, ?_⟩
  · intro left right agree
    exact eval_agree fun name use => agree name ((mem_fields e name).mpr use)
  · intro row complete name misses
    obtain ⟨listed, absent⟩ := missing row name misses
    have present := complete name listed
    rw [absent] at present
    cases present

/-- `coalesce(note, fee) > 1 and status == 'done'` -/
def settled : Expr :=
  .and (.compare (.call .coalesce [.field "note", .field "fee"])
      [(.greater, .literal (.integer 1))])
    (.compare (.field "status") [(.equal, .literal (.string "done"))])

def openOrder : Row := [("note", .null), ("fee", .int64 2), ("status", .string "open")]

/-- The same order with its columns in another sequence, and one more. -/
def openOrderAgain : Row :=
  [("status", .string "open"), ("id", .int64 7), ("fee", .int64 2), ("note", .null)]

def orderWithoutStatus : Row := [("fee", .int64 2), ("note", .null)]

theorem settled_by_fields :
    (∀ name ∈ settled.fields, Fields.get? name openOrder = Fields.get? name openOrderAgain) ∧
      settled.eval openOrder = settled.eval openOrderAgain ∧
      settled.eval orderWithoutStatus = .error (.unknownField "status") ∧
      ("status" ∈ settled.fields ∧ Fields.get? "status" orderWithoutStatus = none) ∧
      (∀ name ∈ settled.fields, (Fields.get? name openOrder).isSome) ∧
      ∀ name, settled.eval openOrder ≠ .error (.unknownField name) := by
  have listed : settled.fields = ["note", "fee", "status"] := by decide
  obtain ⟨-, -, -, settles, missing, complete⟩ := fields_settle_value settled
  have agree : ∀ name ∈ settled.fields,
      Fields.get? name openOrder = Fields.get? name openOrderAgain := by
    rw [listed]
    simp [openOrder, openOrderAgain, Fields.get?]
  have misses : settled.eval orderWithoutStatus = .error (.unknownField "status") := rfl
  have present : ∀ name ∈ settled.fields, (Fields.get? name openOrder).isSome := by
    rw [listed]
    simp [openOrder, Fields.get?]
  exact ⟨agree, settles _ _ agree, misses, missing _ _ misses, present, complete _ present⟩

end Expr

end QueryCheck.Condition

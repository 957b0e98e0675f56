import QueryCheck.Proofs.Condition.Depth

/-!
# Paths of a tree

A path from the root to a leaf counts its nodes in two parts: the operators whose first operand it goes
on to, and all the others. Its longest path gives the height of a tree.
-/

namespace QueryCheck.Condition.Expr

set_option autoImplicit false

/-- A path from the root to a leaf, with the number of its operators that it leaves to the left and the
number of its other nodes. Comparisons are not counted. -/
inductive Path : Expr → Nat → Nat → Prop where
  | literal (value : Literal) : Path (.literal value) 0 1
  | field (name : String) : Path (.field name) 0 1
  | neg {operand : Expr} {turns others : Nat} (path : Path operand turns others) :
      Path (.neg operand) turns (others + 1)
  | not {operand : Expr} {turns others : Nat} (path : Path operand turns others) :
      Path (.not operand) turns (others + 1)
  | andLeft {left right : Expr} {turns others : Nat} (path : Path left turns others) :
      Path (.and left right) (turns + 1) others
  | andRight {left right : Expr} {turns others : Nat} (path : Path right turns others) :
      Path (.and left right) turns (others + 1)
  | orLeft {left right : Expr} {turns others : Nat} (path : Path left turns others) :
      Path (.or left right) (turns + 1) others
  | orRight {left right : Expr} {turns others : Nat} (path : Path right turns others) :
      Path (.or left right) turns (others + 1)
  | arithmeticLeft {operator : Arithmetic} {left right : Expr} {turns others : Nat}
      (path : Path left turns others) : Path (.arithmetic operator left right) (turns + 1) others
  | arithmeticRight {operator : Arithmetic} {left right : Expr} {turns others : Nat}
      (path : Path right turns others) : Path (.arithmetic operator left right) turns (others + 1)
  | compareFirst {first : Expr} {links : List (Comparison × Expr)} {turns others : Nat}
      (path : Path first turns others) : Path (.compare first links) turns others
  | compareLink {first : Expr} {links : List (Comparison × Expr)} {link : Comparison × Expr}
      {turns others : Nat} (member : link ∈ links) (path : Path link.2 turns others) :
      Path (.compare first links) turns others
  | emptyList : Path (.list []) 0 1
  | list {items : List Expr} {item : Expr} {turns others : Nat} (member : item ∈ items)
      (path : Path item turns others) : Path (.list items) turns (others + 1)
  | emptyCall (builtin : Builtin) : Path (.call builtin []) 0 1
  | call {builtin : Builtin} {arguments : List Expr} {argument : Expr} {turns others : Nat}
      (member : argument ∈ arguments) (path : Path argument turns others) :
      Path (.call builtin arguments) turns (others + 1)

theorem height_of_mem {items : List Expr} {item : Expr} (member : item ∈ items) :
    item.height ≤ heightAll items ∧ item.nesting ≤ nestingAll items := by
  induction items with
  | nil => cases member
  | cons first rest induction =>
      unfold heightAll nestingAll
      rcases List.mem_cons.mp member with rfl | member
      · exact ⟨Nat.le_max_left .., Nat.le_max_left ..⟩
      · have bounds := induction member
        exact ⟨Nat.le_trans bounds.1 (Nat.le_max_right ..),
          Nat.le_trans bounds.2 (Nat.le_max_right ..)⟩

theorem height_of_link {links : List (Comparison × Expr)} {link : Comparison × Expr}
    (member : link ∈ links) :
    link.2.height ≤ heightLinks links ∧ link.2.nesting ≤ nestingLinks links := by
  induction links with
  | nil => cases member
  | cons first rest induction =>
      unfold heightLinks nestingLinks
      rcases List.mem_cons.mp member with rfl | member
      · exact ⟨Nat.le_max_left .., Nat.le_max_left ..⟩
      · have bounds := induction member
        exact ⟨Nat.le_trans bounds.1 (Nat.le_max_right ..),
          Nat.le_trans bounds.2 (Nat.le_max_right ..)⟩

/-- No path is longer than the height, and none has more nodes beside its turns than the nesting. -/
theorem path_bounds {tree : Expr} {turns others : Nat} (path : tree.Path turns others) :
    turns + others ≤ tree.height ∧ others ≤ tree.nesting := by
  induction path with
  | literal value => exact ⟨Nat.le_refl _, Nat.le_refl _⟩
  | field name => exact ⟨Nat.le_refl _, Nat.le_refl _⟩
  | emptyList => exact ⟨Nat.le_refl _, Nat.le_refl _⟩
  | emptyCall builtin => exact ⟨Nat.le_refl _, Nat.le_refl _⟩
  | list member path induction =>
      have bounds := height_of_mem member
      unfold height nesting
      omega
  | call member path induction =>
      have bounds := height_of_mem member
      unfold height nesting
      omega
  | compareLink member path induction =>
      have bounds := height_of_link member
      unfold height nesting
      omega
  | _ path induction =>
      unfold height nesting
      omega

/-- Of the longest paths of two operands one gives the longest path of the operator above them. -/
theorem longest_operand {left right : Expr}
    (first : ∃ turns others, left.Path turns others ∧ turns + others = left.height)
    (second : ∃ turns others, right.Path turns others ∧ turns + others = right.height) :
    (∃ turns others, left.Path turns others ∧
        turns + 1 + others = max left.height right.height + 1) ∨
      ∃ turns others, right.Path turns others ∧
        turns + (others + 1) = max left.height right.height + 1 := by
  rcases Nat.le_total left.height right.height with taller | taller
  · obtain ⟨turns, others, path, length⟩ := second
    exact .inr ⟨turns, others, path, by omega⟩
  · obtain ⟨turns, others, path, length⟩ := first
    exact .inl ⟨turns, others, path, by omega⟩

mutual

theorem longest_path : ∀ tree : Expr,
    ∃ turns others, tree.Path turns others ∧ turns + others = tree.height
  | .literal value => ⟨0, 1, .literal value, rfl⟩
  | .field name => ⟨0, 1, .field name, rfl⟩
  | .neg operand => by
      obtain ⟨turns, others, path, length⟩ := longest_path operand
      exact ⟨turns, others + 1, .neg path, congrArg (· + 1) length⟩
  | .not operand => by
      obtain ⟨turns, others, path, length⟩ := longest_path operand
      exact ⟨turns, others + 1, .not path, congrArg (· + 1) length⟩
  | .and left right => by
      rcases longest_operand (longest_path left) (longest_path right) with
        ⟨turns, others, path, length⟩ | ⟨turns, others, path, length⟩
      · exact ⟨turns + 1, others, .andLeft path, length⟩
      · exact ⟨turns, others + 1, .andRight path, length⟩
  | .or left right => by
      rcases longest_operand (longest_path left) (longest_path right) with
        ⟨turns, others, path, length⟩ | ⟨turns, others, path, length⟩
      · exact ⟨turns + 1, others, .orLeft path, length⟩
      · exact ⟨turns, others + 1, .orRight path, length⟩
  | .arithmetic operator left right => by
      rcases longest_operand (longest_path left) (longest_path right) with
        ⟨turns, others, path, length⟩ | ⟨turns, others, path, length⟩
      · exact ⟨turns + 1, others, .arithmeticLeft path, length⟩
      · exact ⟨turns, others + 1, .arithmeticRight path, length⟩
  | .compare first links => by
      obtain ⟨turns, others, path, length⟩ := longest_path first
      rcases longest_link links with none | ⟨link, member, linkTurns, linkOthers, linkPath, linkLength⟩
      · exact ⟨turns, others, .compareFirst path, by unfold height; omega⟩
      · rcases Nat.le_total first.height (heightLinks links) with taller | taller
        · exact ⟨linkTurns, linkOthers, .compareLink member linkPath, by unfold height; omega⟩
        · exact ⟨turns, others, .compareFirst path, by unfold height; omega⟩
  | .list items => by
      rcases longest_item items with rfl | ⟨item, member, turns, others, path, length⟩
      · exact ⟨0, 1, .emptyList, rfl⟩
      · exact ⟨turns, others + 1, .list member path, congrArg (· + 1) length⟩
  | .call builtin arguments => by
      rcases longest_item arguments with rfl | ⟨item, member, turns, others, path, length⟩
      · exact ⟨0, 1, .emptyCall builtin, rfl⟩
      · exact ⟨turns, others + 1, .call member path, congrArg (· + 1) length⟩

theorem longest_item : ∀ items : List Expr, items = [] ∨
    ∃ item ∈ items, ∃ turns others, item.Path turns others ∧ turns + others = heightAll items
  | [] => .inl rfl
  | first :: rest => by
      obtain ⟨turns, others, path, length⟩ := longest_path first
      right
      rcases longest_item rest with rfl | ⟨item, member, restTurns, restOthers, restPath, restLength⟩
      · exact ⟨first, by simp, turns, others, path, by simp [heightAll, length]⟩
      · rcases Nat.le_total first.height (heightAll rest) with taller | taller
        · exact ⟨item, by simp [member], restTurns, restOthers, restPath, by
            unfold heightAll; omega⟩
        · exact ⟨first, by simp, turns, others, path, by unfold heightAll; omega⟩

theorem longest_link : ∀ links : List (Comparison × Expr), heightLinks links = 0 ∨
    ∃ link ∈ links, ∃ turns others, link.2.Path turns others ∧ turns + others = heightLinks links
  | [] => .inl rfl
  | (sign, operand) :: rest => by
      obtain ⟨turns, others, path, length⟩ := longest_path operand
      right
      rcases longest_link rest with none | ⟨link, member, restTurns, restOthers, restPath, restLength⟩
      · exact ⟨(sign, operand), by simp, turns, others, path, by unfold heightLinks; omega⟩
      · rcases Nat.le_total operand.height (heightLinks rest) with taller | taller
        · exact ⟨link, by simp [member], restTurns, restOthers, restPath, by
            unfold heightLinks; omega⟩
        · exact ⟨(sign, operand), by simp, turns, others, path, by unfold heightLinks; omega⟩

end

end QueryCheck.Condition.Expr

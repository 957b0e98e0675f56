import QueryCheck.Proofs.Condition.Soundness

/-!
# How deep a parsed tree is

The parser counts the levels in use and gives them back behind each phrase. A chain of operators gives
its first operand no level of its own, although every link is put above that operand. So the count
bounds a path only where it goes on to right operands; a path that keeps to the left may be longer, by
as many links as each of the four chained levels may have.
-/

namespace QueryCheck.Condition

set_option autoImplicit false

namespace Expr

mutual

/-- The nodes on the longest path from the root to a leaf. Comparisons are passed through uncounted. -/
def height : Expr → Nat
  | literal _ => 1
  | field _ => 1
  | list items => heightAll items + 1
  | neg operand => operand.height + 1
  | not operand => operand.height + 1
  | and left right => max left.height right.height + 1
  | or left right => max left.height right.height + 1
  | arithmetic _ left right => max left.height right.height + 1
  | compare first links => max first.height (heightLinks links)
  | call _ arguments => heightAll arguments + 1

def heightAll : List Expr → Nat
  | [] => 0
  | item :: rest => max item.height (heightAll rest)

def heightLinks : List (Comparison × Expr) → Nat
  | [] => 0
  | (_, operand) :: rest => max operand.height (heightLinks rest)

end

mutual

/-- The height when an operator counts only on the paths that go on to its right operand. -/
def nesting : Expr → Nat
  | literal _ => 1
  | field _ => 1
  | list items => nestingAll items + 1
  | neg operand => operand.nesting + 1
  | not operand => operand.nesting + 1
  | and left right => max left.nesting (right.nesting + 1)
  | or left right => max left.nesting (right.nesting + 1)
  | arithmetic _ left right => max left.nesting (right.nesting + 1)
  | compare first links => max first.nesting (nestingLinks links)
  | call _ arguments => nestingAll arguments + 1

def nestingAll : List Expr → Nat
  | [] => 0
  | item :: rest => max item.nesting (nestingAll rest)

def nestingLinks : List (Comparison × Expr) → Nat
  | [] => 0
  | (_, operand) :: rest => max operand.nesting (nestingLinks rest)

end

end Expr

theorem operator_height {level : Level} {sign : Token} {build : Expr → Expr → Expr}
    (operates : Operator level sign build) (left right : Expr) :
    (build left right).height = max left.height right.height + 1 := by
  cases operates <;> rfl

theorem operator_nesting {level : Level} {sign : Token} {build : Expr → Expr → Expr}
    (operates : Operator level sign build) (left right : Expr) :
    (build left right).nesting = max left.nesting (right.nesting + 1) := by
  cases operates <;> rfl

/-! ## The tallest trees -/

/-- The greatest height of a value with this many levels left. -/
def valueHeight : Nat → Nat
  | 0 => 1
  | levels + 1 => valueHeight levels + 4 * levels + 1

/-- How many of the levels from this one downwards are chained. -/
def chainsFrom : Level → Nat
  | .disjunction => 4
  | .conjunction => 3
  | .negation => 2
  | .comparison => 2
  | .sum => 2
  | .product => 1
  | .signed => 0
  | .value => 0

def heightBound (level : Level) (levels : Nat) : Nat :=
  valueHeight levels + chainsFrom level * levels

theorem value_height_closed (levels : Nat) : valueHeight levels + levels = 2 * levels * levels + 1 := by
  induction levels with
  | zero => rfl
  | succ levels induction =>
      rw [valueHeight]
      simp only [Nat.mul_add, Nat.add_mul] at induction ⊢
      omega

theorem height_bound_succ (level : Level) (levels : Nat) :
    heightBound level levels + 1 ≤ heightBound level (levels + 1) := by
  unfold heightBound
  rw [valueHeight, Nat.mul_succ]
  omega

theorem height_bound_mono (level : Level) {fewer levels : Nat} (fewest : fewer ≤ levels) :
    heightBound level fewer ≤ heightBound level levels := by
  induction fewest with
  | refl => exact Nat.le_refl _
  | step _ induction => exact Nat.le_trans induction (Nat.le_of_succ_le (height_bound_succ level _))

theorem height_bound_chained {level operand : Level} (chained : Chained level operand) (levels : Nat) :
    heightBound level levels = heightBound operand levels + levels := by
  cases chained <;> simp only [heightBound, chainsFrom] <;> omega

theorem height_bound_plain {level below : Level} (plain : Plain level below) (levels : Nat) :
    heightBound level levels = heightBound below levels := by
  cases plain <;> rfl

/-- What a level of the grammar makes of the levels that are left. -/
structure Fits (level : Level) (levels : Nat) (tree : Expr) : Prop where
  height : tree.height ≤ heightBound level levels
  nesting : tree.nesting ≤ levels + 1

/-- An expression inside another one, at least one level below it. -/
structure FitsInside (levels : Nat) (tree : Expr) : Prop where
  height : tree.height < valueHeight levels
  nesting : tree.nesting ≤ levels

theorem fits_leaf (level : Level) (levels : Nat) (tree : Expr) (height : tree.height = 1)
    (nesting : tree.nesting = 1) : Fits level levels tree where
  height := by
    have least := height_bound_mono level (Nat.zero_le levels)
    rw [height]
    exact Nat.le_trans (Nat.le_add_right 1 _) least
  nesting := by omega

theorem fits_plain {level below : Level} (plain : Plain level below) {levels : Nat} {tree : Expr}
    (fits : Fits below levels tree) : Fits level levels tree where
  height := by
    rw [height_bound_plain plain]
    exact fits.height
  nesting := fits.nesting

theorem fits_value {levels : Nat} {tree : Expr} (height : tree.height ≤ valueHeight levels)
    (nesting : tree.nesting ≤ levels + 1) : Fits .value levels tree where
  height := by
    rw [heightBound, chainsFrom, Nat.zero_mul, Nat.add_zero]
    exact height
  nesting := nesting

theorem fits_succ {level : Level} {levels : Nat} {tree : Expr} (fits : Fits level levels tree) :
    Fits level (levels + 1) tree where
  height := Nat.le_trans fits.height (Nat.le_of_succ_le (height_bound_succ level levels))
  nesting := Nat.le_succ_of_le fits.nesting

/-- A node around a tree takes one level more. -/
theorem fits_wrapped {level : Level} {levels : Nat} {tree inner : Expr} (fits : Fits level levels inner)
    (height : tree.height = inner.height + 1) (nesting : tree.nesting = inner.nesting + 1) :
    Fits level (levels + 1) tree where
  height := by
    have room := height_bound_succ level levels
    have bound := fits.height
    omega
  nesting := by
    have bound := fits.nesting
    omega

theorem fits_all {levels : Nat} {items : List Expr} (inside : ∀ item ∈ items, FitsInside levels item) :
    Expr.heightAll items < valueHeight levels ∧ Expr.nestingAll items ≤ levels := by
  induction items with
  | nil =>
      refine ⟨?_, Nat.zero_le _⟩
      cases levels <;> simp [Expr.heightAll, valueHeight]
  | cons item rest induction =>
      rw [List.forall_mem_cons] at inside
      obtain ⟨heights, nestings⟩ := induction inside.2
      exact ⟨Nat.max_lt.mpr ⟨inside.1.height, heights⟩, Nat.max_le.mpr ⟨inside.1.nesting, nestings⟩⟩

namespace Parser

/-- The parser gives back the levels that it used, and its result keeps to the levels that were left. -/
def Keeps {α : Type} (parser : Parser α) (within : Nat → α → Prop) : Prop :=
  ∀ c result after levels, c.depth + levels = maxDepth → parser c = .ok (result, after) →
    after.depth = c.depth ∧ within levels result

theorem advance_depth (c : Cursor) : c.advance.depth = c.depth := by
  unfold Cursor.advance
  split <;> rfl

theorem deepen_depth {c deeper : Cursor} (deepened : c.deepen = .ok deeper) :
    deeper.depth = c.depth + 1 ∧ c.depth < maxDepth := by
  have same := Cursor.deepen_ok deepened
  unfold Cursor.deepen at deepened
  split at deepened
  · cases deepened
  · rw [same]
    exact ⟨rfl, by omega⟩

/-- A nested phrase has one level fewer for itself. -/
theorem nested_keeps {α : Type} {parser : Parser α} {within : Nat → α → Prop}
    (keeps : Keeps parser within) {c after : Cursor} {result : α} {levels : Nat}
    (left : c.depth + levels = maxDepth) (parsed : nested parser c = .ok (result, after)) :
    after.depth = c.depth ∧ ∃ fewer, levels = fewer + 1 ∧ within fewer result := by
  simp only [nested, except_bind_ok] at parsed
  obtain ⟨inner, deepened, ⟨found, behind⟩, run, same⟩ := parsed
  cases same
  obtain ⟨depth, free⟩ := deepen_depth deepened
  cases levels with
  | zero => omega
  | succ fewer => exact ⟨rfl, fewer, rfl, (keeps inner found behind fewer (by omega) run).2⟩

/-! ## Chains of operators -/

section chains

variable {level operandLevel : Level} {operator : Token → Option (Expr → Expr → Expr)}
  {operand : Parser Expr}

/-- Behind `used` links the tree is at most so much taller than a first operand may be. -/
theorem links_keep (known : ∀ sign build, operator sign = some build → Operator level sign build)
    (keeps : Keeps operand (Fits operandLevel)) (levels : Nat) (steps used : Nat) (left : Expr)
    (c : Cursor) (result : Expr) (after : Cursor) (counted : c.depth + levels = maxDepth + used)
    (few : used ≤ levels) (height : left.height ≤ heightBound operandLevel levels + used)
    (nesting : left.nesting ≤ levels + 1)
    (parsed : links operator operand steps left c = .ok (result, after)) :
    result.height ≤ heightBound operandLevel levels + levels ∧ result.nesting ≤ levels + 1 := by
  induction steps generalizing used left c with
  | zero =>
      cases parsed
      exact ⟨by omega, nesting⟩
  | succ steps induction =>
      unfold links at parsed
      split at parsed
      · cases parsed
        exact ⟨by omega, nesting⟩
      · rename_i build found
        have operates := known c.token build found
        simp only [except_bind_ok] at parsed
        obtain ⟨deeper, deepened, ⟨right, behind⟩, run, linked⟩ := parsed
        obtain ⟨depth, free⟩ := deepen_depth deepened
        -- The right operand has only the levels that the links up to its own have left.
        have remaining : deeper.advance.depth + (levels - used - 1) = maxDepth := by
          rw [advance_depth]
          omega
        obtain ⟨restored, fits⟩ := keeps _ right behind _ remaining run
        have lower := height_bound_mono operandLevel (show levels - used - 1 ≤ levels by omega)
        have tall := fits.height
        have deep := fits.nesting
        rw [advance_depth] at restored
        refine induction (used + 1) (build left right) behind (by omega) (by omega) ?_ ?_ linked
        · rw [operator_height operates]
          omega
        · rw [operator_nesting operates]
          omega

theorem chain_keeps (chained : Chained level operandLevel)
    (known : ∀ sign build, operator sign = some build → Operator level sign build)
    (keeps : Keeps operand (Fits operandLevel)) : Keeps (chain operator operand) (Fits level) := by
  intro c result after levels left parsed
  simp only [chain, except_bind_ok] at parsed
  obtain ⟨⟨first, behind⟩, run, ⟨tree, last⟩, linked, same⟩ := parsed
  cases same
  obtain ⟨restored, fits⟩ := keeps c first behind levels left run
  obtain ⟨height, nesting⟩ := links_keep known keeps levels _ 0 first behind tree last (by omega)
    (Nat.zero_le _) fits.height fits.nesting linked
  refine ⟨rfl, ?_, nesting⟩
  rw [height_bound_chained chained]
  exact height

end chains

/-! ## Comparisons -/

theorem comparison_depth {c after : Cursor} {op : Comparison}
    (found : comparison c = some (op, after)) : after.depth = c.depth := by
  unfold comparison at found
  split at found
  all_goals first
    | (cases found; exact advance_depth c)
    | (split at found <;> cases found <;> simp only [advance_depth])
    | cases found

theorem comparison_links_keep {operand : Parser Expr} (keeps : Keeps operand (Fits .sum))
    (steps : Nat) : Keeps (comparisonLinks operand steps) fun levels linked =>
      Expr.heightLinks linked ≤ heightBound .sum levels ∧ Expr.nestingLinks linked ≤ levels + 1 := by
  induction steps with
  | zero =>
      intro c result after levels left parsed
      cases parsed
      exact ⟨rfl, Nat.zero_le _, Nat.zero_le _⟩
  | succ steps induction =>
      intro c result after levels left parsed
      unfold comparisonLinks at parsed
      split at parsed
      · cases parsed
        exact ⟨rfl, Nat.zero_le _, Nat.zero_le _⟩
      · rename_i op behindSign found
        simp only [except_bind_ok] at parsed
        obtain ⟨⟨right, behind⟩, run, ⟨more, last⟩, linked, same⟩ := parsed
        cases same
        have kept := comparison_depth found
        obtain ⟨restored, fits⟩ := keeps behindSign right behind levels (by omega) run
        obtain ⟨again, heights, nestings⟩ := induction behind more last levels (by omega) linked
        exact ⟨(again.trans restored).trans kept, Nat.max_le.mpr ⟨fits.height, heights⟩,
          Nat.max_le.mpr ⟨fits.nesting, nestings⟩⟩

theorem comparisons_keep {operand : Parser Expr} (keeps : Keeps operand (Fits .sum)) :
    Keeps (comparisons operand) (Fits .comparison) := by
  intro c result after levels left parsed
  simp only [comparisons, except_bind_ok] at parsed
  obtain ⟨⟨first, behind⟩, run, ⟨linked, last⟩, listed, same⟩ := parsed
  cases same
  obtain ⟨restored, fits⟩ := keeps c first behind levels left run
  obtain ⟨again, heights, nestings⟩ :=
    comparison_links_keep keeps _ behind linked last levels (by omega) listed
  refine ⟨again.trans restored, ?_⟩
  dsimp only
  split
  · exact fits_plain .comparison fits
  · exact ⟨Nat.max_le.mpr ⟨fits.height, heights⟩, Nat.max_le.mpr ⟨fits.nesting, nestings⟩⟩

/-! ## Words and signs in front of an operand -/

theorem plain_keeps {level below : Level} (plain : Plain level below) {operand : Parser Expr}
    (keeps : Keeps operand (Fits below)) : Keeps operand (Fits level) := by
  intro c result after levels left parsed
  obtain ⟨restored, fits⟩ := keeps c result after levels left parsed
  exact ⟨restored, fits_plain plain fits⟩

theorem negations_keep {operand : Parser Expr} (keeps : Keeps operand (Fits .comparison))
    (steps : Nat) : Keeps (negations operand steps) (Fits .negation) := by
  have alone := plain_keeps .negation keeps
  induction steps with
  | zero => exact alone
  | succ steps induction =>
      intro c result after levels left parsed
      unfold negations at parsed
      split at parsed
      · simp only [except_bind_ok] at parsed
        obtain ⟨⟨inner, behind⟩, run, same⟩ := parsed
        cases same
        rw [← advance_depth c] at left ⊢
        obtain ⟨restored, fewer, rfl, fits⟩ := nested_keeps induction left run
        exact ⟨restored, fits_wrapped fits rfl rfl⟩
      · exact alone c result after levels left parsed

theorem signs_keep {operand : Parser Expr} (keeps : Keeps operand (Fits .value)) (steps : Nat) :
    Keeps (signs operand steps) (Fits .signed) := by
  have alone := plain_keeps .signed keeps
  induction steps with
  | zero => exact alone
  | succ steps induction =>
      intro c result after levels left parsed
      unfold signs at parsed
      split at parsed
      · simp only [except_bind_ok] at parsed
        obtain ⟨⟨inner, behind⟩, run, same⟩ := parsed
        cases same
        rw [← advance_depth c] at left ⊢
        obtain ⟨restored, fewer, rfl, fits⟩ := nested_keeps induction left run
        exact ⟨restored, fits_wrapped fits rfl rfl⟩
      · rw [← advance_depth c] at left ⊢
        obtain ⟨restored, fewer, rfl, fits⟩ := nested_keeps induction left parsed
        exact ⟨restored, fits_succ fits⟩
      · exact alone c result after levels left parsed

/-! ## Items and values -/

section values

variable {item : Parser Expr}

theorem expect_depth {c after : Cursor} {close : Token} (expected : c.expect close = .ok after) :
    after.depth = c.depth := by
  obtain ⟨-, rfl⟩ := Cursor.expect_ok expected
  exact advance_depth c

theorem items_keep (keeps : Keeps item FitsInside) (close : Token) (steps : Nat) :
    Keeps (items item close steps) fun levels found => ∀ one ∈ found, FitsInside levels one := by
  induction steps with
  | zero =>
      intro c result after levels left parsed
      simp only [items, except_bind_ok] at parsed
      obtain ⟨behind, expected, same⟩ := parsed
      cases same
      exact ⟨expect_depth expected, List.forall_mem_nil _⟩
  | succ steps induction =>
      intro c result after levels left parsed
      unfold items at parsed
      split at parsed
      · cases parsed
        exact ⟨advance_depth c, List.forall_mem_nil _⟩
      · simp only [except_bind_ok] at parsed
        obtain ⟨⟨first, behind⟩, run, continued⟩ := parsed
        obtain ⟨restored, fits⟩ := keeps c first behind levels left run
        dsimp only at continued
        split at continued
        · simp only [except_bind_ok] at continued
          obtain ⟨⟨others, last⟩, listed, same⟩ := continued
          cases same
          have counted : behind.advance.depth + levels = maxDepth := by
            rw [advance_depth]
            omega
          obtain ⟨again, inside⟩ := induction _ others last levels counted listed
          rw [advance_depth] at again
          exact ⟨again.trans restored, List.forall_mem_cons.mpr ⟨fits, inside⟩⟩
        · simp only [except_bind_ok] at continued
          obtain ⟨last, expected, same⟩ := continued
          cases same
          exact ⟨(expect_depth expected).trans restored, List.forall_mem_singleton.mpr fits⟩

theorem call_keeps (keeps : Keeps item FitsInside) (name : String) :
    Keeps (call item name) (Fits .value) := by
  intro c result after levels left parsed
  unfold call at parsed
  split at parsed
  · cases parsed
  · simp only [except_bind_ok] at parsed
    obtain ⟨⟨arguments, last⟩, listed, made⟩ := parsed
    dsimp only at made
    split at made
    · cases made
      rw [← advance_depth c, ← advance_depth c.advance] at left ⊢
      obtain ⟨restored, inside⟩ := items_keep keeps _ _ _ arguments after levels left listed
      obtain ⟨heights, nestings⟩ := fits_all inside
      exact ⟨restored, fits_value heights (Nat.succ_le_succ nestings)⟩
    · cases made

theorem word_keeps (keeps : Keeps item FitsInside) (text : String) :
    Keeps (word item text) (Fits .value) := by
  intro c result after levels left parsed
  unfold word at parsed
  split at parsed
  · cases parsed
    exact ⟨advance_depth c, fits_leaf _ _ _ rfl rfl⟩
  · split at parsed
    · cases parsed
    · split at parsed
      · exact call_keeps keeps text c result after levels left parsed
      · cases parsed
        exact ⟨advance_depth c, fits_leaf _ _ _ rfl rfl⟩

theorem value_keeps (keeps : Keeps item FitsInside) : Keeps (value item) (Fits .value) := by
  intro c result after levels left parsed
  unfold value at parsed
  cases here : c.token with
  | integer n =>
      rw [here] at parsed
      cases parsed
      exact ⟨advance_depth c, fits_leaf _ _ _ rfl rfl⟩
  | float lexeme =>
      rw [here] at parsed
      dsimp only [floatLiteral] at parsed
      split at parsed
      · cases parsed
        exact ⟨advance_depth c, fits_leaf _ _ _ rfl rfl⟩
      · cases parsed
  | string text =>
      rw [here] at parsed
      cases parsed
      exact ⟨advance_depth c, fits_leaf _ _ _ rfl rfl⟩
  | word text =>
      rw [here] at parsed
      exact word_keeps keeps text c result after levels left parsed
  | openParen =>
      simp only [here, except_bind_ok] at parsed
      obtain ⟨⟨inner, behind⟩, run, last, expected, same⟩ := parsed
      cases same
      rw [← advance_depth c] at left ⊢
      obtain ⟨restored, fits⟩ := keeps _ inner behind levels left run
      exact ⟨(expect_depth expected).trans restored,
        fits_value (Nat.le_of_lt fits.height) (Nat.le_succ_of_le fits.nesting)⟩
  | openBracket =>
      simp only [here, except_bind_ok] at parsed
      obtain ⟨⟨found, behind⟩, listed, same⟩ := parsed
      cases same
      rw [← advance_depth c] at left ⊢
      obtain ⟨restored, inside⟩ := items_keep keeps _ _ _ found behind levels left listed
      obtain ⟨heights, nestings⟩ := fits_all inside
      exact ⟨restored, fits_value heights (Nat.succ_le_succ nestings)⟩
  | _ =>
      rw [here] at parsed
      cases parsed

theorem disjunction_keeps (keeps : Keeps item FitsInside) :
    Keeps (disjunction item) (Fits .disjunction) := by
  have signed : Keeps (signed item) (Fits .signed) := fun c =>
    signs_keep (value_keeps keeps) c.later.length c
  have product := chain_keeps .product product_operator signed
  have sum := chain_keeps .sum sum_operator product
  have negation : Keeps (negation item) (Fits .negation) := fun c =>
    negations_keep (comparisons_keep sum) c.later.length c
  exact chain_keeps .disjunction or_operator (chain_keeps .conjunction and_operator negation)

end values

theorem expression_keeps (remaining : Nat) : Keeps (expression remaining) FitsInside := by
  induction remaining with
  | zero =>
      intro c result after levels left parsed
      cases parsed
  | succ remaining induction =>
      intro c result after levels left parsed
      obtain ⟨restored, fewer, rfl, fits⟩ := nested_keeps (disjunction_keeps induction) left parsed
      refine ⟨restored, ?_, fits.nesting⟩
      have bound := fits.height
      rw [heightBound, chainsFrom] at bound
      rw [valueHeight]
      omega

end Parser

theorem parsed_fits (text : String) (tree : Expr) (parsed : parse text = .ok tree) :
    FitsInside maxDepth tree := by
  simp only [parse, except_bind_ok] at parsed
  obtain ⟨found, -, parsed⟩ := parsed
  cases found with
  | nil => cases parsed
  | cons first later =>
      unfold parseTokens at parsed
      dsimp only at parsed
      split at parsed
      · cases parsed
      · simp only [except_bind_ok] at parsed
        obtain ⟨⟨result, last⟩, run, finished⟩ := parsed
        dsimp only at finished
        split at finished
        · cases finished
          exact (Parser.expression_keeps maxDepth _ tree last maxDepth (Nat.zero_add _) run).2
        · cases finished

end QueryCheck.Condition

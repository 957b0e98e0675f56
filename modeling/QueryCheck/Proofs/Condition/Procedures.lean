import QueryCheck.Proofs.Condition.Completeness

/-!
# The parser as procedures

The grammar once more, as procedures that call each other and whose loops call themselves. No steps are
counted here, so nothing says in advance that a procedure ever comes to an end: it does when it has a
run. What a procedure asks of the cursor that it is called at, and what it promises of the cursor that
it gives back, is checked for each body alone and holds of all runs.
-/

namespace QueryCheck.Condition

set_option autoImplicit false

/-- The level of the operands. -/
def Level.below : Level → Level
  | disjunction => conjunction
  | conjunction => negation
  | negation => comparison
  | comparison => sum
  | sum => product
  | product => signed
  | signed => value
  | value => value

/-- An expression one level deeper, a phrase of a level, and the three loops: the links of a chain behind
its left operand, the links of a comparison, and the items up to a closing token. -/
inductive Procedure where
  | expression
  | phrase (level : Level)
  | links (level : Level) (left : Expr)
  | comparisonLinks
  | items (close : Token)

abbrev Procedure.Result : Procedure → Type
  | expression => Expr
  | phrase _ => Expr
  | links _ _ => Expr
  | comparisonLinks => List (Comparison × Expr)
  | items _ => List Expr

/-- An outcome, or a call of a procedure with the program that goes on behind it. -/
inductive Program (α : Type) where
  | done (outcome : Except ParseError (α × Cursor))
  | call (procedure : Procedure) (c : Cursor) (next : procedure.Result × Cursor → Program α)

namespace Program

variable {α β : Type}

def behind (step : Except ParseError β) (next : β → Program α) : Program α :=
  match step with
  | .ok value => next value
  | .error e => .done (.error e)

/-- A phrase one level deeper. -/
def nested (level : Level) (c : Cursor) (build : Expr → Expr) : Program Expr :=
  behind c.deepen fun inner =>
    .call (.phrase level) inner fun (tree, after) =>
      .done (.ok (build tree, { after with depth := c.depth }))

def only (procedure : Procedure) (c : Cursor) : Program procedure.Result :=
  .call procedure c fun found => .done (.ok found)

end Program

namespace Procedure

open Program

def chain (level : Level) (c : Cursor) : Program Expr :=
  .call (phrase level.below) c fun (first, after) =>
    .call (links level first) after fun (tree, last) =>
      .done (.ok (tree, { last with depth := c.depth }))

def negation (c : Cursor) : Program Expr :=
  if c.token = .word "not" then nested .negation c.advance .not
  else only (phrase .comparison) c

def comparison (c : Cursor) : Program Expr :=
  .call (phrase .sum) c fun (first, after) =>
    .call comparisonLinks after fun (linked, last) =>
      .done (.ok (if linked.isEmpty then first else .compare first linked, last))

def signed (c : Cursor) : Program Expr :=
  match c.token with
  | .minus => nested .signed c.advance .neg
  | .plus => nested .signed c.advance id
  | _ => only (phrase .value) c

def builtinCall (name : String) (c : Cursor) : Program Expr :=
  match Builtin.ofName? name with
  | none => .done (.error (c.fail (.unknownFunction name)))
  | some builtin =>
    .call (items .closeParen) c.advance.advance fun (arguments, after) =>
      .done <|
        if builtin.admits arguments.length then .ok (.call builtin arguments, after)
        else .error (c.fail (.argumentCount builtin arguments.length))

def word (text : String) (c : Cursor) : Program Expr :=
  match Parser.wordLiteral? text with
  | some value => .done (.ok (.literal value, c.advance))
  | none =>
    if Parser.isKeyword text then .done (.error (c.fail (.unexpectedKeyword text)))
    else if c.nextToken = .openParen then builtinCall text c
    else .done (.ok (.field text, c.advance))

def value (c : Cursor) : Program Expr :=
  match c.token with
  | .integer n => .done (.ok (.literal (.integer n), c.advance))
  | .float lexeme => .done (Parser.floatLiteral lexeme c)
  | .string text => .done (.ok (.literal (.string text), c.advance))
  | .word text => word text c
  | .openParen =>
    .call expression c.advance fun (inner, after) =>
      behind (after.expect .closeParen) fun last => .done (.ok (inner, last))
  | .openBracket =>
    .call (items .closeBracket) c.advance fun (found, after) => .done (.ok (.list found, after))
  | other => .done (.error (c.fail (.expectedValue other)))

def nextLink (level : Level) (left : Expr) (c : Cursor) : Program Expr :=
  match Parser.operatorAt level c.token with
  | none => .done (.ok (left, c))
  | some build =>
    behind c.deepen fun deeper =>
      .call (phrase level.below) deeper.advance fun (right, after) =>
        only (links level (build left right)) after

def nextComparison (c : Cursor) : Program (List (Comparison × Expr)) :=
  match Parser.comparison c with
  | none => .done (.ok ([], c))
  | some (op, operand) =>
    .call (phrase .sum) operand fun (right, after) =>
      .call comparisonLinks after fun (rest, last) => .done (.ok ((op, right) :: rest, last))

def nextItem (close : Token) (c : Cursor) : Program (List Expr) :=
  if c.token = close then .done (.ok ([], c.advance))
  else
    .call expression c fun (first, after) =>
      if after.token = .comma then
        .call (items close) after.advance fun (rest, last) => .done (.ok (first :: rest, last))
      else behind (after.expect close) fun last => .done (.ok ([first], last))

def body : (procedure : Procedure) → Cursor → Program procedure.Result
  | expression, c => nested .disjunction c id
  | phrase .negation, c => negation c
  | phrase .comparison, c => comparison c
  | phrase .signed, c => signed c
  | phrase .value, c => value c
  | phrase level, c => chain level c
  | links level left, c => nextLink level left c
  | comparisonLinks, c => nextComparison c
  | items close, c => nextItem close c

def condition : List Placed → Program Expr
  | [] => .done (.error ⟨.emptyExpression, 0⟩)
  | first :: later =>
    let start : Cursor := ⟨first, later, 0⟩
    if start.token = .ending then .done (.error (start.fail .emptyExpression))
    else
      .call expression start fun (tree, last) =>
        .done <|
          if last.token = .ending then .ok (tree, last) else .error (last.fail (.trailing last.token))

end Procedure

open Procedure (body)

/-! ## Runs -/

/-- A run of a program: its outcome, and the cursors at which procedures are called, in their order. A
program that does not come to an end has no run. -/
inductive Runs : {α : Type} → Program α → Except ParseError (α × Cursor) → List Cursor → Prop where
  | done {α : Type} (outcome : Except ParseError (α × Cursor)) : Runs (.done outcome) outcome []
  | failed {α : Type} {procedure : Procedure} {c : Cursor}
      {next : procedure.Result × Cursor → Program α} {e : ParseError} {inner : List Cursor}
      (run : Runs (body procedure c) (.error e) inner) :
      Runs (.call procedure c next) (.error e) (c :: inner)
  | returned {α : Type} {procedure : Procedure} {c : Cursor}
      {next : procedure.Result × Cursor → Program α} {found : procedure.Result × Cursor}
      {outcome : Except ParseError (α × Cursor)} {inner later : List Cursor}
      (run : Runs (body procedure c) (.ok found) inner) (continued : Runs (next found) outcome later) :
      Runs (.call procedure c next) outcome (c :: (inner ++ later))

theorem runs_unique {α : Type} {program : Program α} {outcome other : Except ParseError (α × Cursor)}
    {calls others : List Cursor} (run : Runs program outcome calls) (again : Runs program other others) :
    other = outcome ∧ others = calls := by
  induction run generalizing others with
  | done outcome =>
      cases again
      exact ⟨rfl, rfl⟩
  | failed run induction =>
      cases again with
      | failed same =>
          obtain ⟨outcomes, rfl⟩ := induction same
          cases outcomes
          exact ⟨rfl, rfl⟩
      | returned same continued => cases (induction same).1
  | returned run continued first second =>
      cases again with
      | failed same => cases (first same).1
      | returned same behind =>
          obtain ⟨outcomes, rfl⟩ := first same
          cases outcomes
          obtain ⟨rfl, rfl⟩ := second behind
          exact ⟨rfl, rfl⟩

/-- What procedures ask for when they are called, what they promise of the cursor that they give back,
and which errors they may fail with. -/
structure Contract where
  requires : Procedure → Cursor → Prop
  ensures : Procedure → Cursor → Cursor → Prop
  permits : ParseError → Prop

/-- The program keeps to the contract in its calls and its errors, and gives back a cursor that is asked
for, as long as the procedures that it calls keep their promises. -/
def Program.Keeps (contract : Contract) {α : Type} (goal : Cursor → Prop) : Program α → Prop
  | done (.ok (_, after)) => goal after
  | done (.error e) => contract.permits e
  | call procedure c next =>
      contract.requires procedure c ∧
        ∀ found, contract.ensures procedure c found.2 → (next found).Keeps contract goal

def Contract.Kept (contract : Contract) : Prop :=
  ∀ procedure c, contract.requires procedure c →
    (body procedure c).Keeps contract (contract.ensures procedure c)

/-- From the bodies to the runs. -/
theorem runs_keep {contract : Contract} (kept : contract.Kept) {α : Type} {program : Program α}
    {outcome : Except ParseError (α × Cursor)} {calls : List Cursor} (run : Runs program outcome calls)
    {goal : Cursor → Prop} (keeps : program.Keeps contract goal) :
    (∀ c ∈ calls, ∃ procedure, contract.requires procedure c) ∧
      (∀ found, outcome = .ok found → goal found.2) ∧ ∀ e, outcome = .error e → contract.permits e := by
  induction run generalizing goal with
  | done outcome =>
      refine ⟨List.forall_mem_nil _, ?_, ?_⟩
      · rintro found rfl
        exact keeps
      · rintro e rfl
        exact keeps
  | failed run induction =>
      obtain ⟨required, -⟩ := keeps
      obtain ⟨inside, -, permitted⟩ := induction (kept _ _ required)
      refine ⟨List.forall_mem_cons.mpr ⟨⟨_, required⟩, inside⟩, nofun, ?_⟩
      rintro e same
      cases same
      exact permitted _ rfl
  | returned run continued first second =>
      obtain ⟨required, behind⟩ := keeps
      obtain ⟨inside, ensured, -⟩ := first (kept _ _ required)
      obtain ⟨later, goals⟩ := second (behind _ (ensured _ rfl))
      refine ⟨List.forall_mem_cons.mpr ⟨⟨_, required⟩, ?_⟩, goals⟩
      exact List.forall_mem_append.mpr ⟨inside, later⟩

end QueryCheck.Condition

import QueryCheck.Proofs.Condition.Lexemes
import QueryCheck.Proofs.Condition.ProcedureContract

/-!
# The parser comes to an end

Every procedure of the parser, called at a token of a list that ends with the ending and with no more
than the allowed levels in use, has a run. The parser that counts its steps gives the outcome of that
run, so the steps never run out. On the way no more than the allowed levels are in use, and a procedure
that gives a tree back has passed over tokens and left the ending in place.
-/

namespace QueryCheck.Condition

set_option autoImplicit false

namespace Procedure

open Program

variable {found : List Placed} {c : Cursor}

def HasRun {α : Type} (program : Program α) (outcome : Except ParseError (α × Cursor)) : Prop :=
  ∃ calls, Runs program outcome calls

/-- Wherever a procedure may be called, with no more levels free than further expressions may be nested,
it has a run with the outcome of the parser. -/
def PerformedBy (found : List Placed) (remaining : Nat) (procedure : Procedure)
    (parser : Parser procedure.Result) : Prop :=
  ∀ c, (contract found).requires procedure c → maxDepth ≤ c.depth + remaining →
    HasRun (body procedure c) (parser c)

theorem done_runs {α : Type} (outcome : Except ParseError (α × Cursor)) :
    HasRun (.done outcome) outcome :=
  ⟨[], .done outcome⟩

theorem behind_runs {α β : Type} {step : Except ParseError β} {next : β → Program α}
    {rest : β → Except ParseError (α × Cursor)}
    (continued : ∀ value, step = .ok value → HasRun (next value) (rest value)) :
    HasRun (behind step next) (step >>= rest) := by
  cases step with
  | ok value => exact continued value rfl
  | error e => exact done_runs _

theorem last_is_ending (ends : c.Ends) (last : c.later.length ≤ 0) : c.token = .ending := by
  unfold Cursor.Ends Cursor.tokens at ends
  rw [List.eq_nil_of_length_eq_zero (Nat.le_zero.mp last)] at ends
  exact Option.some.inj ends

theorem as_it_stands {α : Type} (outcome : Except ParseError (α × Cursor)) :
    (outcome >>= fun result => .ok (id result.1, result.2)) = outcome := by
  cases outcome <;> rfl

section performs

variable (ended : (found.map Placed.token).getLast? = some .ending)

include ended

/-- What goes on behind a call may count on what the procedure promises. -/
theorem call_runs {α : Type} {procedure : Procedure}
    {outcome : Except ParseError (procedure.Result × Cursor)}
    {next : procedure.Result × Cursor → Program α}
    {rest : procedure.Result × Cursor → Except ParseError (α × Cursor)}
    (required : (contract found).requires procedure c) (performed : HasRun (body procedure c) outcome)
    (continued : ∀ result after, (contract found).ensures procedure c after →
      HasRun (next (result, after)) (rest (result, after))) :
    HasRun (.call procedure c next) (outcome >>= rest) := by
  obtain ⟨inner, run⟩ := performed
  cases outcome with
  | error e => exact ⟨_, .failed run⟩
  | ok found =>
      have kept := runs_keep (contract_kept ended) run (contract_kept ended _ _ required)
      obtain ⟨later, behind⟩ := continued found.1 found.2 (kept.2.1 _ rfl)
      exact ⟨_, .returned run behind⟩

theorem only_runs {procedure : Procedure} {outcome : Except ParseError (procedure.Result × Cursor)}
    (required : (contract found).requires procedure c) (performed : HasRun (body procedure c) outcome) :
    HasRun (only procedure c) outcome := by
  have run : HasRun (only procedure c) (outcome >>= .ok) :=
    call_runs ended required performed fun result after _ => done_runs (.ok (result, after))
  cases outcome with
  | ok result => exact run
  | error e => exact run

theorem nested_runs {level : Level} {parser : Parser Expr} {build : Expr → Expr}
    (within : c.Within found)
    (performed : ∀ inner, c.deepen = .ok inner → HasRun (body (phrase level) inner) (parser inner)) :
    HasRun (nested level c build)
      (Parser.nested parser c >>= fun result => .ok (build result.1, result.2)) := by
  have flat : (Parser.nested parser c >>= fun result => .ok (build result.1, result.2)) =
      c.deepen >>= fun inner => parser inner >>= fun result =>
        .ok (build result.1, { result.2 with depth := c.depth }) := by
    unfold Parser.nested
    cases c.deepen with
    | error e => rfl
    | ok inner =>
        change ((parser inner >>= _) >>= _) = (parser inner >>= _)
        cases parser inner <;> rfl
  rw [flat]
  apply behind_runs
  intro inner deepened
  refine call_runs ended (within.deepen deepened) (performed inner deepened) ?_
  exact fun result after _ => done_runs _

/-! ## Chains -/

section chains

variable {level : Level} {remaining : Nat} {operand : Parser Expr}
  (performed : PerformedBy found remaining (phrase level.below) operand)

include performed

theorem links_run (steps : Nat) (left : Expr) (c : Cursor) (within : c.Within found)
    (enough : maxDepth ≤ c.depth + remaining) (long : c.later.length ≤ steps) :
    HasRun (nextLink level left c) (Parser.links (Parser.operatorAt level) operand steps left c) := by
  have ends := within.ends ended
  induction steps generalizing left c with
  | zero =>
      have none : Parser.operatorAt level c.token = none := by
        rw [last_is_ending ends long]
        cases level <;> rfl
      unfold nextLink
      rw [none]
      exact done_runs _
  | succ steps induction =>
      unfold nextLink Parser.links
      cases operates : Parser.operatorAt level c.token with
      | none => exact done_runs _
      | some build =>
          apply behind_runs
          intro deeper deepened
          have inside := within.deepen deepened
          have signed := Cursor.operand_returns ends operates deepened
          have operand := inside.behind signed
          cases Cursor.deepen_ok deepened
          have levels : _ = c.depth + 1 := signed.depth
          refine call_runs ended operand (performed _ operand (by omega)) fun right after returned => ?_
          -- The operand took tokens away, and so there are steps left for the links behind it.
          have behind := signed.trans returned
          have shorter : after.later.length < c.later.length := behind.passes.shorter
          have restored : after.depth = c.depth + 1 := behind.depth
          have again := inside.behind behind
          exact only_runs ended again (induction _ after again (by omega) (by omega) (again.ends ended))

theorem chain_runs (within : c.Within found) (enough : maxDepth ≤ c.depth + remaining) :
    HasRun (chain level c) (Parser.chain (Parser.operatorAt level) operand c) := by
  refine call_runs ended within (performed c within enough) fun first after returned => ?_
  have again := within.behind returned
  have depth := returned.depth
  have linked := links_run ended performed _ first after again (by omega) (Nat.le_refl _)
  exact call_runs ended again linked fun tree last _ => done_runs _

end chains

/-! ## Comparisons -/

section comparisons

variable {remaining : Nat} {operand : Parser Expr}
  (performed : PerformedBy found remaining (phrase .sum) operand)

include performed

theorem comparison_links_run (steps : Nat) (c : Cursor) (within : c.Within found)
    (enough : maxDepth ≤ c.depth + remaining) (long : c.later.length ≤ steps) :
    HasRun (nextComparison c) (Parser.comparisonLinks operand steps c) := by
  have ends := within.ends ended
  induction steps generalizing c with
  | zero =>
      have none : Parser.comparison c = none := by
        unfold Parser.comparison
        rw [last_is_ending ends long]
      unfold nextComparison
      rw [none]
      exact done_runs _
  | succ steps induction =>
      unfold nextComparison Parser.comparisonLinks
      cases taken : Parser.comparison c with
      | none => exact done_runs _
      | some found =>
          obtain ⟨op, first⟩ := found
          have signed := Cursor.comparison_returns ends taken
          have operand := within.behind signed
          have depth := signed.depth
          refine call_runs ended operand (performed _ operand (by omega)) fun right after returned => ?_
          have behind := signed.trans returned
          have shorter := behind.passes.shorter
          have restored := behind.depth
          have again := within.behind behind
          have others := induction after again (by omega) (by omega) (again.ends ended)
          exact call_runs ended again others fun rest last _ => done_runs _

theorem comparisons_run (within : c.Within found) (enough : maxDepth ≤ c.depth + remaining) :
    HasRun (comparison c) (Parser.comparisons operand c) := by
  refine call_runs ended within (performed c within enough) fun first after returned => ?_
  have again := within.behind returned
  have depth := returned.depth
  have linked := comparison_links_run ended performed _ after again (by omega) (Nat.le_refl _)
  exact call_runs ended again linked fun links last _ => done_runs _

end comparisons

/-! ## Words and signs in front of an operand -/

/-- A phrase behind a word or sign, for which one step fewer is left. -/
theorem behind_first_runs {level : Level} {remaining steps : Nat} {parser : Parser Expr}
    {build : Expr → Expr} {sign : Token} (within : c.Within found)
    (enough : maxDepth ≤ c.depth + remaining) (long : c.later.length ≤ steps + 1) (here : c.token = sign)
    (inside : sign ≠ .ending)
    (performed : ∀ inner : Cursor, inner.Within found → maxDepth ≤ inner.depth + remaining →
      inner.later.length ≤ steps → HasRun (body (phrase level) inner) (parser inner)) :
    HasRun (nested level c.advance build)
      (Parser.nested parser c.advance >>= fun result => .ok (build result.1, result.2)) := by
  have behind := Cursor.advance_returns (within.ends ended) here inside
  have shorter := behind.passes.shorter
  have levels := behind.depth
  refine nested_runs ended (within.behind behind) fun inner deepened => ?_
  have deeper := (within.behind behind).deepen deepened
  cases Cursor.deepen_ok deepened
  refine performed _ deeper ?_ (by change c.advance.later.length ≤ steps; omega)
  change maxDepth ≤ c.advance.depth + 1 + remaining
  omega

theorem negations_run {remaining : Nat} {operand : Parser Expr}
    (performed : PerformedBy found remaining (phrase .comparison) operand) (steps : Nat) (c : Cursor)
    (within : c.Within found) (enough : maxDepth ≤ c.depth + remaining) (long : c.later.length ≤ steps) :
    HasRun (body (phrase .negation) c) (Parser.negations operand steps c) := by
  induction steps generalizing c with
  | zero =>
      have plain : c.token ≠ .word "not" := by
        rw [last_is_ending (within.ends ended) long]
        decide
      have alone : HasRun (only (phrase .comparison) c) (operand c) :=
        only_runs ended within (performed c within enough)
      change HasRun (negation c) _
      unfold negation
      rw [if_neg plain]
      exact alone
  | succ steps induction =>
      have alone : HasRun (only (phrase .comparison) c) (operand c) :=
        only_runs ended within (performed c within enough)
      change HasRun (negation c) _
      unfold negation Parser.negations
      split
      · rename_i here
        exact behind_first_runs ended within enough long here (by decide) induction
      · exact alone

theorem signs_run {remaining : Nat} {operand : Parser Expr}
    (performed : PerformedBy found remaining (phrase .value) operand) (steps : Nat) (c : Cursor)
    (within : c.Within found) (enough : maxDepth ≤ c.depth + remaining) (long : c.later.length ≤ steps) :
    HasRun (body (phrase .signed) c) (Parser.signs operand steps c) := by
  induction steps generalizing c with
  | zero =>
      have alone : HasRun (only (phrase .value) c) (operand c) :=
        only_runs ended within (performed c within enough)
      change HasRun (signed c) _
      unfold signed
      rw [last_is_ending (within.ends ended) long]
      exact alone
  | succ steps induction =>
      have alone : HasRun (only (phrase .value) c) (operand c) :=
        only_runs ended within (performed c within enough)
      change HasRun (signed c) _
      unfold signed Parser.signs
      cases here : c.token with
      | minus => exact behind_first_runs ended within enough long here (by decide) induction
      | plus =>
          dsimp only
          rw [← as_it_stands (Parser.nested _ _)]
          exact behind_first_runs ended within enough long here (by decide) induction
      | _ => exact alone

/-! ## Values -/

section values

variable {remaining : Nat} {item : Parser Expr} (performed : PerformedBy found remaining expression item)

include performed

theorem items_run {close : Token} (closing : close ≠ .ending) (steps : Nat) (c : Cursor)
    (within : c.Within found) (enough : maxDepth ≤ c.depth + remaining) (long : c.later.length < steps) :
    HasRun (nextItem close c) (Parser.items item close steps c) := by
  induction steps generalizing c with
  | zero => exact absurd long (Nat.not_lt_zero _)
  | succ steps induction =>
      unfold nextItem Parser.items
      split
      · exact done_runs _
      · refine call_runs ended within (performed c within enough) fun first after returned => ?_
        dsimp only
        split
        · rename_i comma
          have ends := (within.behind returned).ends ended
          have further := returned.trans (Cursor.advance_returns ends comma (by decide))
          have again := within.behind further
          have shorter := further.passes.shorter
          have depth := further.depth
          have others := induction after.advance again (by omega) (by omega)
          exact call_runs ended ⟨again, closing⟩ others fun rest last _ => done_runs _
        · exact behind_runs fun last _ => done_runs _

theorem builtin_call_runs {name : String} (within : c.Within found)
    (enough : maxDepth ≤ c.depth + remaining) (here : c.token = .word name)
    (next : c.nextToken = .openParen) : HasRun (builtinCall name c) (Parser.call item name c) := by
  unfold builtinCall Parser.call
  cases Builtin.ofName? name with
  | none => exact done_runs _
  | some builtin =>
      have opened := Cursor.advance_twice_returns (within.ends ended) here nofun next nofun
      have inside := within.behind opened
      have depth := opened.depth
      have closing : Token.closeParen ≠ .ending := nofun
      have listed := items_run ended performed closing _ _ inside (by omega) (Nat.lt_succ_self _)
      exact call_runs ended ⟨inside, closing⟩ listed fun arguments after _ => done_runs _

theorem word_runs {text : String} (within : c.Within found) (enough : maxDepth ≤ c.depth + remaining)
    (here : c.token = .word text) : HasRun (word text c) (Parser.word item text c) := by
  unfold word Parser.word
  cases Parser.wordLiteral? text with
  | some literal => exact done_runs _
  | none =>
      dsimp only
      split
      · exact done_runs _
      · split
        · rename_i next
          exact builtin_call_runs ended performed within enough here next
        · exact done_runs _

theorem value_runs (within : c.Within found) (enough : maxDepth ≤ c.depth + remaining) :
    HasRun (value c) (Parser.value item c) := by
  have ends := within.ends ended
  unfold value Parser.value
  cases here : c.token with
  | word text => exact word_runs ended performed within enough here
  | openParen =>
      have opened := Cursor.advance_returns ends here nofun
      have inside := within.behind opened
      have depth := opened.depth
      refine call_runs ended inside (performed _ inside (by omega)) fun tree after _ => ?_
      exact behind_runs fun last _ => done_runs _
  | openBracket =>
      have opened := Cursor.advance_returns ends here nofun
      have inside := within.behind opened
      have depth := opened.depth
      have closing : Token.closeBracket ≠ .ending := nofun
      have listed := items_run ended performed closing _ _ inside (by omega) (Nat.lt_succ_self _)
      exact call_runs ended ⟨inside, closing⟩ listed fun trees after _ => done_runs _
  | _ => exact done_runs _

theorem level_runs (level : Level) :
    PerformedBy found remaining (phrase level) (Parser.levelParser item level) := by
  have value : PerformedBy found remaining (phrase .value) (Parser.value item) :=
    fun c within enough => value_runs ended performed within enough
  have signed : PerformedBy found remaining (phrase .signed) (Parser.signed item) :=
    fun c within enough => signs_run ended value _ c within enough (Nat.le_refl _)
  have product : PerformedBy found remaining (phrase .product) (Parser.product item) :=
    fun c within enough => chain_runs ended signed within enough
  have sum : PerformedBy found remaining (phrase .sum) (Parser.sum item) :=
    fun c within enough => chain_runs ended product within enough
  have comparison : PerformedBy found remaining (phrase .comparison) (Parser.comparisonChain item) :=
    fun c within enough => comparisons_run ended sum within enough
  have negation : PerformedBy found remaining (phrase .negation) (Parser.negation item) :=
    fun c within enough => negations_run ended comparison _ c within enough (Nat.le_refl _)
  have conjunction : PerformedBy found remaining (phrase .conjunction) (Parser.conjunction item) :=
    fun c within enough => chain_runs ended negation within enough
  have disjunction : PerformedBy found remaining (phrase .disjunction) (Parser.disjunction item) :=
    fun c within enough => chain_runs ended conjunction within enough
  cases level with
  | disjunction => exact disjunction
  | conjunction => exact conjunction
  | negation => exact negation
  | comparison => exact comparison
  | sum => exact sum
  | product => exact product
  | signed => exact signed
  | value => exact value

end values

theorem expression_runs (remaining : Nat) :
    PerformedBy found remaining expression (Parser.expression remaining) := by
  induction remaining with
  | zero =>
      intro c within enough
      have full : c.deepen = .error (c.fail .nestedTooDeeply) := if_pos enough
      change HasRun (behind c.deepen _) _
      rw [full]
      exact done_runs _
  | succ remaining induction =>
      intro c within enough
      change HasRun (nested .disjunction c id) (Parser.nested _ c)
      rw [← as_it_stands (Parser.nested _ c)]
      refine nested_runs ended within fun inner deepened => ?_
      have depth := (Parser.deepen_depth deepened).1
      exact level_runs ended induction .disjunction inner (within.deepen deepened) (by omega)

/-- The parser of a procedure, given as many steps as there are tokens behind the cursor. -/
def parser (remaining : Nat) : (procedure : Procedure) → Parser procedure.Result
  | expression => Parser.expression remaining
  | phrase level => Parser.levelParser (Parser.expression remaining) level
  | links level left => fun c =>
    Parser.links (Parser.operatorAt level) (Parser.levelParser (Parser.expression remaining) level.below)
      c.later.length left c
  | comparisonLinks => fun c =>
    Parser.comparisonLinks (Parser.sum (Parser.expression remaining)) c.later.length c
  | items close => Parser.itemList (Parser.expression remaining) close

theorem performed (remaining : Nat) (procedure : Procedure) :
    PerformedBy found remaining procedure (procedure.parser remaining) := by
  have item := expression_runs ended remaining
  intro c required enough
  cases procedure with
  | expression => exact item c required enough
  | phrase level => exact level_runs ended item level c required enough
  | links level left =>
      exact links_run ended (level_runs ended item level.below) _ left c required enough (Nat.le_refl _)
  | comparisonLinks =>
      exact comparison_links_run ended (level_runs ended item .sum) _ c required enough (Nat.le_refl _)
  | items close => exact items_run ended item required.2 _ c required.1 enough (Nat.lt_succ_self _)

/-! ## Whole conditions -/

theorem condition_runs :
    ∃ outcome, HasRun (condition found) outcome ∧ outcome.map Prod.fst = parseTokens found := by
  cases found with
  | nil => exact ⟨_, done_runs _, rfl⟩
  | cons first later =>
      unfold condition parseTokens
      dsimp only
      split
      · exact ⟨_, done_runs _, rfl⟩
      · have start : Cursor.Within (first :: later) ⟨first, later, 0⟩ :=
          ⟨List.suffix_refl _, Nat.zero_le _⟩
        have run := expression_runs ended maxDepth _ start (Nat.le_add_left _ _)
        refine ⟨Parser.expression maxDepth ⟨first, later, 0⟩ >>= fun result =>
          if result.2.token = .ending then .ok result
          else .error (result.2.fail (.trailing result.2.token)),
          call_runs ended start run fun tree last _ => done_runs _, ?_⟩
        cases Parser.expression maxDepth ⟨first, later, 0⟩ with
        | error e => rfl
        | ok result =>
            change Except.map Prod.fst (if _ then _ else _) = if _ then _ else _
            split <;> rfl

omit ended in
theorem condition_keeps : (condition found).Keeps (contract found) fun _ => True := by
  cases found with
  | nil => exact nofun
  | cons first later =>
      unfold condition
      dsimp only
      split
      · exact nofun
      · refine ⟨⟨List.suffix_refl _, Nat.zero_le _⟩, fun result _ => ?_⟩
        dsimp only
        split
        · trivial
        · exact nofun

end performs

end Procedure

/-! ## Positions -/

namespace Cursor

variable {found : List Placed} {position : Nat} {c after : Cursor}

/-- The cursor is at this position of the list. -/
def StandsAt (found : List Placed) (position : Nat) (c : Cursor) : Prop :=
  found.drop position = c.placed

/-- At a later position, not behind the last token, and with the same levels in use. -/
def MovesOn (found : List Placed) (position : Nat) (c after : Cursor) : Prop :=
  ∃ further, position < further ∧ further < found.length ∧ after.StandsAt found further ∧
    after.depth = c.depth

theorem StandsAt.within (stands : c.StandsAt found position) (counted : c.depth ≤ maxDepth) :
    c.Within found where
  reached := by
    rw [← stands]
    exact List.drop_suffix position found
  counted := counted

theorem Within.stands (within : c.Within found) : ∃ position, c.StandsAt found position := by
  obtain ⟨front, rfl⟩ := within.reached
  exact ⟨front.length, List.drop_left⟩

theorem StandsAt.moves_on (stands : c.StandsAt found position) (returned : c.Returns after) :
    c.MovesOn found position after := by
  obtain ⟨taken, split⟩ := returned.passes.reaches
  have longer := returned.passes.shorter
  have lengths := congrArg List.length split
  have further : after.StandsAt found (position + taken.length) := by
    unfold StandsAt at *
    rw [← List.drop_drop, stands, ← split, List.drop_left]
  have remaining := congrArg List.length further
  simp only [placed, List.length_append, List.length_cons, List.length_drop] at lengths remaining
  exact ⟨_, by omega, by omega, further, returned.depth⟩

end Cursor

/-- The program has this run and no other. Its calls are at tokens of the list, and no more than the
allowed levels are in use there. -/
structure ComesToEnd {α : Type} (found : List Placed) (program : Program α)
    (outcome : Except ParseError (α × Cursor)) (calls : List Cursor) : Prop where
  run : Runs program outcome calls
  unique : ∀ other others, Runs program other others → other = outcome ∧ others = calls
  within : ∀ call ∈ calls, call.depth ≤ maxDepth ∧ ∃ position, call.StandsAt found position

theorem comes_to_end {α : Type} {found : List Placed} {program : Program α}
    {outcome : Except ParseError (α × Cursor)} {calls : List Cursor} {goal : Cursor → Prop}
    (ended : (found.map Placed.token).getLast? = some .ending)
    (keeps : program.Keeps (Procedure.contract found) goal) (run : Runs program outcome calls) :
    ComesToEnd found program outcome calls where
  run := run
  unique := fun _ _ again => runs_unique run again
  within := by
    intro call member
    obtain ⟨procedure, required⟩ := (runs_keep (Procedure.contract_kept ended) run keeps).1 call member
    have within := Procedure.required_within required
    exact ⟨within.counted, within.stands⟩

theorem tokens_ended {text : List Char} {found : List Placed} (lexed : tokens text = .ok found) :
    (found.map Placed.token).getLast? = some .ending := by
  obtain ⟨body, placed, -⟩ := Lexer.tokens_from_read text 0 0 found lexed
  rw [placed, List.getLast?_append]
  rfl

/-- At every token of a list that ends with the ending, and with every number of levels in use that is
allowed, each procedure comes to an end with the outcome of the parser. Expressions and phrases of all
levels give back a later token and the levels. So does every condition come to an end. -/
theorem parser_comes_to_end :
    (∀ (found : List Placed) (c : Cursor) (position remaining : Nat),
      (found.map Placed.token).getLast? = some .ending → c.StandsAt found position →
      c.depth ≤ maxDepth → maxDepth ≤ c.depth + remaining →
      (∀ procedure : Procedure, procedure ≠ .items .ending →
        ∃ calls, ComesToEnd found (procedure.body c) (procedure.parser remaining c) calls) ∧
      (∀ tree after, Parser.expression remaining c = .ok (tree, after) →
        c.MovesOn found position after) ∧
      ∀ level tree after,
        Parser.levelParser (Parser.expression remaining) level c = .ok (tree, after) →
          c.MovesOn found position after) ∧
    ∀ text : String,
      (∀ e, tokens text.toList = .error e → parse text = .error e) ∧
      ∀ found, tokens text.toList = .ok found →
        ∃ outcome calls, ComesToEnd found (Procedure.condition found) outcome calls ∧
          outcome.map Prod.fst = parse text := by
  constructor
  · intro found c position remaining ended stands counted enough
    have within := stands.within counted
    have kept := Procedure.contract_kept ended
    have performed : ∀ procedure, (Procedure.contract found).requires procedure c →
        Procedure.HasRun (procedure.body c) (procedure.parser remaining c) :=
      fun procedure required => Procedure.performed ended remaining procedure c required enough
    refine ⟨?_, ?_, ?_⟩
    · intro procedure closing
      have required : (Procedure.contract found).requires procedure c := by
        cases procedure with
        | items close =>
            refine ⟨within, ?_⟩
            rintro rfl
            exact closing rfl
        | _ => exact within
      obtain ⟨calls, run⟩ := performed procedure required
      exact ⟨calls, comes_to_end ended (kept procedure c required) run⟩
    · intro tree after parsed
      obtain ⟨calls, run⟩ := performed .expression within
      exact stands.moves_on ((runs_keep kept run (kept .expression c within)).2.1 (tree, after) parsed)
    · intro level tree after parsed
      obtain ⟨calls, run⟩ := performed (.phrase level) within
      exact stands.moves_on
        ((runs_keep kept run (kept (.phrase level) c within)).2.1 (tree, after) parsed)
  · intro text
    unfold parse
    constructor
    · intro e failed
      rw [failed]
      rfl
    · intro found lexed
      have ended := tokens_ended lexed
      obtain ⟨outcome, ⟨calls, run⟩, same⟩ := Procedure.condition_runs ended
      refine ⟨outcome, calls, comes_to_end ended Procedure.condition_keeps run, ?_⟩
      rw [lexed, same]
      rfl

/-- `paid and not (due)` -/
def paidNotDue : List Placed :=
  [⟨.word "paid", 0⟩, ⟨.word "and", 5⟩, ⟨.word "not", 9⟩, ⟨.openParen, 13⟩, ⟨.word "due", 14⟩,
    ⟨.closeParen, 17⟩, ⟨.ending, 18⟩]

/-- At the word `not`, with two levels left. -/
def beforeNot : Cursor :=
  ⟨⟨.word "not", 9⟩, paidNotDue.drop 3, 62⟩

theorem not_due_comes_to_end :
    (paidNotDue.map Placed.token).getLast? = some .ending ∧ beforeNot.StandsAt paidNotDue 2 ∧
      beforeNot.depth ≤ maxDepth ∧ maxDepth ≤ beforeNot.depth + 2 ∧
      Parser.levelParser (Parser.expression 2) .negation beforeNot =
        .ok (.not (.field "due"), ⟨⟨.ending, 18⟩, [], 62⟩) ∧
      (∃ calls, ComesToEnd paidNotDue (Procedure.body (.phrase .negation) beforeNot)
        (.ok (.not (.field "due"), ⟨⟨.ending, 18⟩, [], 62⟩)) calls) ∧
      beforeNot.MovesOn paidNotDue 2 ⟨⟨.ending, 18⟩, [], 62⟩ ∧
      Parser.levelParser (Parser.expression 1) .negation { beforeNot with depth := 63 } =
        .error ⟨.nestedTooDeeply, 14⟩ ∧
      ∃ calls, ComesToEnd paidNotDue (Procedure.body (.phrase .negation) { beforeNot with depth := 63 })
        (.error ⟨.nestedTooDeeply, 14⟩) calls := by
  have negated : Parser.levelParser (Parser.expression 2) .negation beforeNot =
      .ok (.not (.field "due"), ⟨⟨.ending, 18⟩, [], 62⟩) := by rfl
  have full : Parser.levelParser (Parser.expression 1) .negation { beforeNot with depth := 63 } =
      .error ⟨.nestedTooDeeply, 14⟩ := by rfl
  have stands : beforeNot.StandsAt paidNotDue 2 := by rfl
  have ended : (paidNotDue.map Placed.token).getLast? = some .ending := by rfl
  obtain ⟨ends, -, moves⟩ :=
    parser_comes_to_end.1 paidNotDue beforeNot 2 2 ended stands (by decide) (by decide)
  obtain ⟨refused, -, -⟩ :=
    parser_comes_to_end.1 paidNotDue { beforeNot with depth := 63 } 2 1 ended stands (by decide) (by decide)
  refine ⟨ended, stands, by decide, by decide, negated, ?_, moves .negation _ _ negated, full, ?_⟩
  · rw [← negated]
    exact ends (.phrase .negation) nofun
  · rw [← full]
    exact refused (.phrase .negation) nofun

end QueryCheck.Condition

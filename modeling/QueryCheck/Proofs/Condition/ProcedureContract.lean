import QueryCheck.Proofs.Condition.Depth
import QueryCheck.Proofs.Condition.Procedures

/-!
# What the procedures of the parser keep to

Called at a token of a list that ends with the ending, and with no more than the allowed levels in use,
a procedure calls others at tokens of the list and within the levels only. Behind a phrase the cursor is
further on, and the levels in use are those at its beginning.
-/

namespace QueryCheck.Condition

set_option autoImplicit false

/-! ## Cursors on a list of tokens -/

namespace Cursor

/-- The tokens from the cursor's own on, with their offsets. -/
def placed (c : Cursor) : List Placed :=
  c.current :: c.later

/-- At a token of the list, with no more than the allowed levels in use. -/
structure Within (found : List Placed) (c : Cursor) : Prop where
  reached : c.placed <:+ found
  counted : c.depth ≤ maxDepth

/-- The second cursor is further on in the tokens of the first. -/
structure Passes (c after : Cursor) : Prop where
  reaches : after.placed <:+ c.placed
  shorter : after.later.length < c.later.length

/-- The levels in use are those of the first cursor again. -/
structure Returns (c after : Cursor) : Prop where
  passes : c.Passes after
  depth : after.depth = c.depth

variable {found : List Placed} {c middle after : Cursor}

theorem reaches_shorter (reaches : after.placed <:+ c.placed) : after.later.length ≤ c.later.length :=
  Nat.le_of_succ_le_succ reaches.length_le

theorem passes_reaches (passes : c.Passes middle) (reaches : after.placed <:+ middle.placed) :
    c.Passes after :=
  ⟨reaches.trans passes.reaches, Nat.lt_of_le_of_lt (reaches_shorter reaches) passes.shorter⟩

theorem reaches_passes (reaches : middle.placed <:+ c.placed) (passes : middle.Passes after) :
    c.Passes after :=
  ⟨passes.reaches.trans reaches, Nat.lt_of_lt_of_le passes.shorter (reaches_shorter reaches)⟩

theorem Returns.trans (first : c.Returns middle) (second : middle.Returns after) : c.Returns after :=
  ⟨passes_reaches first.passes second.passes.reaches, second.depth.trans first.depth⟩

theorem Within.behind (within : c.Within found) (returned : c.Returns after) : after.Within found where
  reached := returned.passes.reaches.trans within.reached
  counted := by
    rw [returned.depth]
    exact within.counted

theorem Within.ends (within : c.Within found)
    (ended : (found.map Placed.token).getLast? = some .ending) : c.Ends := by
  obtain ⟨front, rfl⟩ := within.reached
  rw [List.map_append, List.getLast?_append] at ended
  change c.tokens.getLast?.or _ = _ at ended
  unfold Ends
  cases last : c.tokens.getLast? with
  | none => exact absurd (List.getLast?_eq_none_iff.mp last) c.tokens_ne_nil
  | some token =>
      rw [last] at ended
      exact ended

/-! ### Tokens that are taken -/

theorem advance_passes (ends : c.Ends) (inside : c.token ≠ .ending) : c.Passes c.advance := by
  unfold advance
  cases behind : c.later with
  | nil =>
      unfold Ends tokens at ends
      rw [behind] at ends
      exact absurd (Option.some.inj ends) inside
  | cons next later =>
      constructor
      · change next :: later <:+ c.current :: c.later
        rw [behind]
        exact List.suffix_cons _ _
      · rw [behind]
        exact Nat.lt_succ_self _

theorem advance_returns {token : Token} (ends : c.Ends) (here : c.token = token)
    (inside : token ≠ .ending) : c.Returns c.advance := by
  rw [← here] at inside
  exact ⟨advance_passes ends inside, Parser.advance_depth c⟩

theorem advance_twice_returns {first second : Token} (ends : c.Ends) (here : c.token = first)
    (inside : first ≠ .ending) (next : c.nextToken = second) (insideNext : second ≠ .ending) :
    c.Returns c.advance.advance := by
  have behind := (advance_over ends here inside).2
  exact (advance_returns ends here inside).trans
    (advance_returns (advance_ends ends here inside) (behind.trans next) insideNext)

theorem expect_returns {close : Token} (ends : c.Ends) (closing : close ≠ .ending)
    (expected : c.expect close = .ok after) : c.Returns after := by
  obtain ⟨here, rfl⟩ := expect_ok expected
  exact advance_returns ends here closing

theorem comparison_returns {op : Comparison} (ends : c.Ends)
    (taken : Parser.comparison c = some (op, after)) : c.Returns after := by
  unfold Parser.comparison at taken
  split at taken
  case h_8 here =>
    split at taken
    · rename_i next
      cases taken
      exact advance_twice_returns ends here nofun next nofun
    · cases taken
  case h_9 here =>
    split at taken
    · rename_i next
      cases taken
      exact advance_twice_returns ends here nofun next nofun
    · cases taken
      exact advance_returns ends here nofun
  case h_10 => cases taken
  all_goals
    rename_i here
    cases taken
    exact advance_returns ends here nofun

/-- The cursor that an operand begins at, behind the sign in front of it. -/
theorem operand_returns {level : Level} {build : Expr → Expr → Expr} {deeper : Cursor} (ends : c.Ends)
    (operates : Parser.operatorAt level c.token = some build) (deepened : c.deepen = .ok deeper) :
    deeper.Returns deeper.advance := by
  cases deepen_ok deepened
  have sign := (Parser.operator_at_iff level c.token build).mp operates
  refine advance_returns ends rfl ?_
  intro ending
  rw [show c.token = .ending from ending] at sign
  cases sign

theorem Within.deepen {deeper : Cursor} (within : c.Within found) (deepened : c.deepen = .ok deeper) :
    deeper.Within found := by
  obtain ⟨depth, free⟩ := Parser.deepen_depth deepened
  cases deepen_ok deepened
  exact ⟨within.reached, by omega⟩

end Cursor

namespace Procedure

open Program

/-- The procedures of a list are called at its tokens, with no more than the allowed levels in use. Each
but the loops over links passes over a token, and each but that of a chain gives the levels back. A float
is refused only if it is on the list and has no number. -/
def contract (found : List Placed) : Contract where
  requires
    | items close, c => c.Within found ∧ close ≠ .ending
    | _, c => c.Within found
  ensures
    | links _ _, c, after => after.placed <:+ c.placed
    | comparisonLinks, c, after => after.placed <:+ c.placed ∧ after.depth = c.depth
    | _, c, after => c.Returns after
  permits e :=
    ∀ lexeme, e.fault = .malformedFloat lexeme →
      .float lexeme ∈ found.map Placed.token ∧ Binary64.read? lexeme.toList = none

variable {found : List Placed} {c : Cursor}

theorem required_within {procedure : Procedure} (required : (contract found).requires procedure c) :
    c.Within found := by
  cases procedure with
  | items close => exact required.1
  | _ => exact required

/-! ## Steps that may fail -/

theorem behind_keeps {α β : Type} {step : Except ParseError β} {next : β → Program α}
    {goal : Cursor → Prop} (permitted : ∀ e, step = .error e → (contract found).permits e)
    (keeps : ∀ value, step = .ok value → (next value).Keeps (contract found) goal) :
    (behind step next).Keeps (contract found) goal := by
  cases step with
  | ok value => exact keeps value rfl
  | error e => exact permitted e rfl

theorem deepen_permitted {e : ParseError} (failed : c.deepen = .error e) :
    (contract found).permits e := by
  unfold Cursor.deepen at failed
  split at failed
  · cases failed
    exact nofun
  · cases failed

theorem expect_permitted {close : Token} {e : ParseError} (failed : c.expect close = .error e) :
    (contract found).permits e := by
  unfold Cursor.expect at failed
  split at failed
  · cases failed
  · cases failed
    exact nofun

theorem float_keeps {lexeme : String} (within : c.Within found) (here : c.token = .float lexeme)
    (behind : c.Returns c.advance) :
    (done (Parser.floatLiteral lexeme c)).Keeps (contract found) c.Returns := by
  unfold Parser.floatLiteral
  split
  · exact behind
  · rename_i unread
    rintro other same
    cases same
    refine ⟨?_, unread⟩
    rw [← here]
    exact List.mem_map_of_mem (within.reached.subset List.mem_cons_self)

/-! ## Phrases -/

theorem nested_keeps {level : Level} {start : Cursor} {build : Expr → Expr} (within : c.Within found)
    (further : c.placed <:+ start.placed) (depth : c.depth = start.depth) :
    (nested level c build).Keeps (contract found) start.Returns := by
  apply behind_keeps fun e failed => deepen_permitted failed
  intro inner deepened
  have inside := within.deepen deepened
  cases Cursor.deepen_ok deepened
  refine ⟨inside, fun result returned => ⟨?_, depth⟩⟩
  exact Cursor.reaches_passes further ⟨returned.passes.reaches, returned.passes.shorter⟩

theorem chain_keeps (within : c.Within found) (level : Level) :
    (chain level c).Keeps (contract found) c.Returns := by
  refine ⟨within, fun first returned => ⟨within.behind returned, fun last further => ?_⟩⟩
  exact ⟨Cursor.passes_reaches returned.passes further, rfl⟩

theorem comparison_keeps (within : c.Within found) :
    (comparison c).Keeps (contract found) c.Returns := by
  refine ⟨within, fun first returned => ⟨within.behind returned, fun last further => ?_⟩⟩
  exact ⟨Cursor.passes_reaches returned.passes further.1, further.2.trans returned.depth⟩

theorem negation_keeps (within : c.Within found) (ends : c.Ends) :
    (negation c).Keeps (contract found) c.Returns := by
  unfold negation
  split
  · rename_i here
    have behind := Cursor.advance_returns ends here nofun
    exact nested_keeps (within.behind behind) behind.passes.reaches behind.depth
  · exact ⟨within, fun result returned => returned⟩

theorem signed_keeps (within : c.Within found) (ends : c.Ends) :
    (signed c).Keeps (contract found) c.Returns := by
  unfold signed
  split
  · rename_i here
    have behind := Cursor.advance_returns ends here nofun
    exact nested_keeps (within.behind behind) behind.passes.reaches behind.depth
  · rename_i here
    have behind := Cursor.advance_returns ends here nofun
    exact nested_keeps (within.behind behind) behind.passes.reaches behind.depth
  · exact ⟨within, fun result returned => returned⟩

/-! ## Values -/

theorem builtin_call_keeps {name : String} (within : c.Within found) (ends : c.Ends)
    (here : c.token = .word name) (next : c.nextToken = .openParen) :
    (builtinCall name c).Keeps (contract found) c.Returns := by
  unfold builtinCall
  split
  · exact nofun
  · have opened := Cursor.advance_twice_returns ends here nofun next nofun
    refine ⟨⟨within.behind opened, nofun⟩, fun listed returned => ?_⟩
    dsimp only
    split
    · exact opened.trans returned
    · exact nofun

theorem word_keeps {text : String} (within : c.Within found) (ends : c.Ends)
    (here : c.token = .word text) : (word text c).Keeps (contract found) c.Returns := by
  have behind := Cursor.advance_returns ends here nofun
  unfold word
  split
  · exact behind
  · split
    · exact nofun
    · split
      · rename_i next
        exact builtin_call_keeps within ends here next
      · exact behind

section loops

variable (ended : (found.map Placed.token).getLast? = some .ending)

include ended

theorem value_keeps (within : c.Within found) : (value c).Keeps (contract found) c.Returns := by
  have ends := within.ends ended
  unfold value
  cases here : c.token with
  | integer n => exact Cursor.advance_returns ends here nofun
  | float lexeme => exact float_keeps within here (Cursor.advance_returns ends here nofun)
  | string text => exact Cursor.advance_returns ends here nofun
  | word text => exact word_keeps within ends here
  | openParen =>
      have opened := Cursor.advance_returns ends here nofun
      refine ⟨within.behind opened, fun result returned => ?_⟩
      apply behind_keeps fun e failed => expect_permitted failed
      intro last expected
      have inside := opened.trans returned
      have closing : Token.closeParen ≠ .ending := nofun
      exact inside.trans (Cursor.expect_returns ((within.behind inside).ends ended) closing expected)
  | openBracket =>
      have opened := Cursor.advance_returns ends here nofun
      exact ⟨⟨within.behind opened, nofun⟩, fun result returned => opened.trans returned⟩
  | _ => exact nofun

/-! ## Loops -/

theorem next_link_keeps (within : c.Within found) (level : Level) (left : Expr) :
    (nextLink level left c).Keeps (contract found) fun after => after.placed <:+ c.placed := by
  unfold nextLink
  split
  · exact List.suffix_refl _
  · rename_i build operates
    apply behind_keeps fun e failed => deepen_permitted failed
    intro deeper deepened
    have inside := within.deepen deepened
    have signed := Cursor.operand_returns (within.ends ended) operates deepened
    refine ⟨inside.behind signed, fun right returned => ?_⟩
    have behind := signed.trans returned
    refine ⟨inside.behind behind, fun last reaches => ?_⟩
    cases Cursor.deepen_ok deepened
    exact reaches.trans behind.passes.reaches

theorem next_comparison_keeps (within : c.Within found) :
    (nextComparison c).Keeps (contract found) fun after =>
      after.placed <:+ c.placed ∧ after.depth = c.depth := by
  unfold nextComparison
  split
  · exact ⟨List.suffix_refl _, rfl⟩
  · rename_i op operand taken
    have signed := Cursor.comparison_returns (within.ends ended) taken
    refine ⟨within.behind signed, fun right returned => ?_⟩
    have behind := signed.trans returned
    refine ⟨within.behind behind, fun rest further => ?_⟩
    exact ⟨further.1.trans behind.passes.reaches, further.2.trans behind.depth⟩

theorem next_item_keeps (within : c.Within found) {close : Token} (closing : close ≠ .ending) :
    (nextItem close c).Keeps (contract found) c.Returns := by
  unfold nextItem
  split
  · rename_i here
    exact Cursor.advance_returns (within.ends ended) here closing
  · refine ⟨within, fun first returned => ?_⟩
    have ends := (within.behind returned).ends ended
    dsimp only
    split
    · rename_i comma
      have further := returned.trans (Cursor.advance_returns ends comma nofun)
      exact ⟨⟨within.behind further, closing⟩, fun rest again => further.trans again⟩
    · apply behind_keeps fun e failed => expect_permitted failed
      intro last expected
      exact returned.trans (Cursor.expect_returns ends closing expected)

theorem contract_kept : (contract found).Kept := by
  intro procedure c required
  have within := required_within required
  have ends := within.ends ended
  match procedure, required with
  | expression, _ => exact nested_keeps within (List.suffix_refl _) rfl
  | phrase .negation, _ => exact negation_keeps within ends
  | phrase .comparison, _ => exact comparison_keeps within
  | phrase .signed, _ => exact signed_keeps within ends
  | phrase .value, _ => exact value_keeps ended within
  | phrase .disjunction, _ => exact chain_keeps within .disjunction
  | phrase .conjunction, _ => exact chain_keeps within .conjunction
  | phrase .sum, _ => exact chain_keeps within .sum
  | phrase .product, _ => exact chain_keeps within .product
  | links level left, _ => exact next_link_keeps ended within level left
  | comparisonLinks, _ => exact next_comparison_keeps ended within
  | items close, required => exact next_item_keeps ended within required.2

end loops

end Procedure

end QueryCheck.Condition

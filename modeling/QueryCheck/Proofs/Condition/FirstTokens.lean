import QueryCheck.Proofs.Condition.Grammar

/-!
# Where phrases begin and where they stop

A level binds tighter the lower its rank is. Which tokens may begin a phrase, and which may stand behind
it without going on with it, depends on the rank alone. With these two facts every choice of the parser
is settled by the next one or two tokens.
-/

namespace QueryCheck.Condition

set_option autoImplicit false

def Level.rank : Level → Nat
  | .value => 0
  | .signed => 1
  | .product => 2
  | .sum => 3
  | .comparison => 4
  | .negation => 5
  | .conjunction => 6
  | .disjunction => 7

theorem chained_rank {level operand : Level} (chained : Chained level operand) :
    operand.rank ≤ level.rank := by
  cases chained <;> decide

theorem plain_rank {level below : Level} (plain : Plain level below) : below.rank ≤ level.rank := by
  cases plain <;> decide

/-! ## The first token -/

def Token.startsValue : Token → Bool
  | .integer _ => true
  | .float _ => true
  | .string _ => true
  | .word text => text ∉ ["and", "or", "not", "in", "is"]
  | .openParen => true
  | .openBracket => true
  | _ => false

def Starts (level : Level) (first : Token) : Prop :=
  first.startsValue = true ∨
    Level.signed.rank ≤ level.rank ∧ (first = .plus ∨ first = .minus) ∨
    Level.negation.rank ≤ level.rank ∧ first = .word "not"

theorem starts_mono {level below : Level} {first : Token} (lower : below.rank ≤ level.rank)
    (starts : Starts below first) : Starts level first := by
  rcases starts with value | ⟨signed, sign⟩ | ⟨negated, word⟩
  · exact .inl value
  · exact .inr (.inl ⟨Nat.le_trans signed lower, sign⟩)
  · exact .inr (.inr ⟨Nat.le_trans negated lower, word⟩)

theorem literal_starts {text : String} {literal : Literal} (known : LiteralWord text literal) :
    (Token.word text).startsValue = true := by
  cases known <;> decide

theorem name_starts {text : String} (free : text ∉ keywords) :
    (Token.word text).startsValue = true := by
  unfold Token.startsValue
  rw [decide_eq_true_iff]
  intro member
  exact free (valueless_is_keyword member)

theorem phrase_starts {level : Level} {phrase : List Token} {tree : Expr}
    (derived : Phrase level phrase tree) :
    ∃ first rest, phrase = first :: rest ∧ Starts level first := by
  match derived with
  | .chain chained start links =>
      obtain ⟨first, rest, same, starts⟩ := phrase_starts start
      rw [same]
      exact ⟨first, _, rfl, starts_mono (chained_rank chained) starts⟩
  | .plain plain alone =>
      obtain ⟨first, rest, same, starts⟩ := phrase_starts alone
      exact ⟨first, rest, same, starts_mono (plain_rank plain) starts⟩
  | .not operand => exact ⟨_, _, rfl, .inr (.inr ⟨Nat.le_refl _, rfl⟩)⟩
  | .compare start linked nonempty =>
      obtain ⟨first, rest, same, starts⟩ := phrase_starts start
      rw [same]
      exact ⟨first, _, rfl, starts_mono (by decide) starts⟩
  | .minus operand => exact ⟨_, _, rfl, .inr (.inl ⟨Nat.le_refl _, .inr rfl⟩)⟩
  | .plus operand => exact ⟨_, _, rfl, .inr (.inl ⟨Nat.le_refl _, .inl rfl⟩)⟩
  | .integer n => exact ⟨_, _, rfl, .inl rfl⟩
  | .float read => exact ⟨_, _, rfl, .inl rfl⟩
  | .string text => exact ⟨_, _, rfl, .inl rfl⟩
  | .literal known => exact ⟨_, _, rfl, .inl (literal_starts known)⟩
  | .name free => exact ⟨_, _, rfl, .inl (name_starts free)⟩
  | .call builtin listed admitted =>
      exact ⟨_, _, rfl, .inl (by cases builtin <;> decide)⟩
  | .parentheses inner => exact ⟨_, _, rfl, .inl rfl⟩
  | .list listed => exact ⟨_, _, rfl, .inl rfl⟩

/-- No phrase begins with the end of a list, a comma or the ending. -/
theorem starts_inside {level : Level} {first : Token} (starts : Starts level first) :
    first ≠ .closeParen ∧ first ≠ .closeBracket ∧ first ≠ .comma ∧ first ≠ .ending := by
  rcases starts with value | ⟨-, rfl | rfl⟩ | ⟨-, rfl⟩
  · refine ⟨?_, ?_, ?_, ?_⟩ <;> (intro same; rw [same] at value; cases value)
  · decide
  · decide
  · decide

theorem sum_starts_without_not {first : Token} (starts : Starts .comparison first) :
    first ≠ .word "not" := by
  intro same
  rcases starts with value | ⟨-, sign⟩ | ⟨rank, -⟩
  · rw [same] at value
    revert value
    decide
  · rw [same] at sign
    rcases sign with impossible | impossible <;> cases impossible
  · exact absurd rank (by decide)

theorem value_starts_without_sign {first : Token} (starts : Starts .value first) :
    first ≠ .plus ∧ first ≠ .minus := by
  rcases starts with value | ⟨rank, -⟩ | ⟨rank, -⟩
  · constructor <;> (intro same; rw [same] at value; cases value)
  · exact absurd rank (by decide)
  · exact absurd rank (by decide)

/-! ## The tokens behind -/

/-- The tokens do not go on with a phrase of the level. -/
structure Stops (level : Level) (rest : List Token) : Prop where
  ends : rest.getLast? = some .ending
  noCall : rest.head? ≠ some .openParen
  noOperator : ∀ inner sign build, inner.rank ≤ level.rank → Operator inner sign build →
    rest.head? ≠ some sign
  noSign : Level.comparison.rank ≤ level.rank → ∀ words op, Sign words op → ¬words <+: rest

theorem ends_append {rest : List Token} (ends : rest.getLast? = some .ending) (front : List Token) :
    (front ++ rest).getLast? = some .ending := by
  rw [List.getLast?_append, ends]
  rfl

theorem stops_mono {level below : Level} {rest : List Token} (lower : below.rank ≤ level.rank)
    (stops : Stops level rest) : Stops below rest where
  ends := stops.ends
  noCall := stops.noCall
  noOperator := by
    intro inner sign build inside
    exact stops.noOperator inner sign build (Nat.le_trans inside lower)
  noSign := by
    intro inside
    exact stops.noSign (Nat.le_trans inside lower)

theorem stops_of_head {level : Level} {first : Token} {rest : List Token}
    (ends : (first :: rest).getLast? = some .ending) (noCall : first ≠ .openParen)
    (noOperator : ∀ inner sign build, inner.rank ≤ level.rank → Operator inner sign build →
      first ≠ sign)
    (noSign : Level.comparison.rank ≤ level.rank → ∀ words op, Sign words op →
      words.head? ≠ some first) : Stops level (first :: rest) where
  ends := ends
  noCall := by simpa using noCall
  noOperator := by
    intro inner sign build lower operates same
    exact noOperator inner sign build lower operates (Option.some.inj same)
  noSign := by
    intro lower words op sign starts
    apply noSign lower words op sign
    cases sign <;> (rw [List.cons_prefix_cons] at starts; rw [starts.1]; rfl)

/-- The ends of lists, a comma and the ending stop every phrase. -/
theorem stops_outside {level : Level} {first : Token} {rest : List Token}
    (ends : (first :: rest).getLast? = some .ending)
    (outside : first = .closeParen ∨ first = .closeBracket ∨ first = .comma ∨ first = .ending) :
    Stops level (first :: rest) := by
  apply stops_of_head ends
  · rcases outside with rfl | rfl | rfl | rfl <;> decide
  · intro inner sign build lower operates
    rcases outside with rfl | rfl | rfl | rfl <;> cases operates <;> decide
  · intro lower words op sign
    rcases outside with rfl | rfl | rfl | rfl <;> cases sign <;> decide

/-- An operator stops the operand in front of it. -/
theorem stops_before_operator {level operand : Level} (chained : Chained level operand) {sign : Token}
    {build : Expr → Expr → Expr} {rest : List Token} (operates : Operator level sign build)
    (ends : (sign :: rest).getLast? = some .ending) : Stops operand (sign :: rest) := by
  apply stops_of_head ends
  · cases operates <;> decide
  · intro inner other buildOther lower operatesOther
    cases chained <;> cases operates <;> cases operatesOther <;> revert lower <;> decide
  · intro lower words op found
    cases chained <;> cases operates <;> cases found <;> revert lower <;> decide

/-- The first word of a comparison operator stops the sum in front of it. -/
theorem stops_before_sign {words rest : List Token} {op : Comparison} (sign : Sign words op)
    (ends : (words ++ rest).getLast? = some .ending) : Stops .sum (words ++ rest) := by
  cases sign <;> (
    apply stops_of_head ends
    · decide
    · intro inner sign build lower operates
      cases operates <;> decide
    · intro lower
      exact absurd lower (by decide))

theorem stops_before_chain {level operand : Level} {left tree : Expr} {rest more : List Token}
    (chained : Chained level operand) (links : Chain level operand left rest tree)
    (stops : Stops level more) : Stops operand (rest ++ more) := by
  have ends := ends_append stops.ends rest
  cases links with
  | done => exact stops_mono (chained_rank chained) stops
  | link operates behind links => exact stops_before_operator chained operates ends

theorem stops_before_links {rest more : List Token} {links : List (Comparison × Expr)}
    (linked : Links rest links) (stops : Stops .comparison more) : Stops .sum (rest ++ more) := by
  have ends := ends_append stops.ends rest
  cases linked with
  | done => exact stops_mono (by decide) stops
  | link sign behind linked =>
      rw [List.append_assoc, List.append_assoc] at ends ⊢
      exact stops_before_sign sign ends

end QueryCheck.Condition

import QueryCheck.Proofs.Condition.FirstTokens
import QueryCheck.Proofs.Condition.Soundness

/-!
# What the parser reads

At the front of tokens that stop it, every phrase is read to its end and gives its tree, unless the
levels are used up before. The induction is on the derivation; the loops of the parser have a step left
for every token that is still to come.
-/

namespace QueryCheck.Condition

set_option autoImplicit false

/-- The value with the rest of the tokens, or the levels are used up. -/
def Yields {α : Type} (result : Except ParseError (α × Cursor)) (value : α) (rest : List Token) :
    Prop :=
  (∃ after, result = .ok (value, after) ∧ after.tokens = rest) ∨
    ∃ offset, result = .error ⟨.nestedTooDeeply, offset⟩

namespace Parser

variable {α β : Type}

theorem yields_ok {value : α} {after : Cursor} {rest : List Token} (left : after.tokens = rest) :
    Yields (.ok (value, after)) value rest :=
  .inl ⟨after, rfl, left⟩

theorem yields_bind {step : Except ParseError (α × Cursor)}
    {next : α × Cursor → Except ParseError (β × Cursor)} {value : α} {result : β}
    {middle rest : List Token} (first : Yields step value middle)
    (continued : ∀ after, after.tokens = middle → Yields (next (value, after)) result rest) :
    Yields (step >>= next) result rest := by
  rcases first with ⟨after, rfl, left⟩ | ⟨offset, rfl⟩
  · exact continued after left
  · exact .inr ⟨offset, rfl⟩

theorem deepen_yields {c : Cursor} {next : Cursor → Except ParseError (β × Cursor)} {result : β}
    {rest : List Token} (continued : Yields (next { c with depth := c.depth + 1 }) result rest) :
    Yields (c.deepen >>= next) result rest := by
  unfold Cursor.deepen
  split
  · exact .inr ⟨_, rfl⟩
  · exact continued

theorem nested_yields {parser : Parser α} {c : Cursor} {value : α} {rest : List Token}
    (inside : Yields (parser { c with depth := c.depth + 1 }) value rest) :
    Yields (nested parser c) value rest := by
  apply deepen_yields
  apply yields_bind inside
  intro after left
  exact yields_ok left

theorem expect_yields {c : Cursor} {close next : Token} {rest : List Token} {value : α}
    (found : c.tokens = close :: next :: rest) :
    Yields (c.expect close >>= fun last => .ok (value, last)) value (next :: rest) := by
  unfold Cursor.expect
  rw [if_pos (Cursor.token_of_tokens found)]
  exact yields_ok (Cursor.advance_tokens found).1

/-- The parser reads the phrase wherever the tokens behind it stop it. -/
def Reads (parser : Parser α) (phrase : List Token) (value : α) (stops : List Token → Prop) : Prop :=
  ∀ c rest, c.tokens = phrase ++ rest → stops rest → Yields (parser c) value rest

theorem nested_reads {parser : Parser α} {phrase : List Token} {value : α}
    {stops : List Token → Prop} (reads : Reads parser phrase value stops) :
    Reads (nested parser) phrase value stops := by
  intro c rest found stopped
  exact nested_yields (reads { c with depth := c.depth + 1 } rest found stopped)

/-- A phrase behind the first token leaves a place to advance to. -/
theorem behind_first {level : Level} {phrase rest : List Token} {tree : Expr} {first : Token}
    {c : Cursor} (derived : Phrase level phrase tree) (found : c.tokens = first :: phrase ++ rest) :
    c.advance.tokens = phrase ++ rest ∧ c.later.length = c.advance.later.length + 1 := by
  obtain ⟨next, others, same, -⟩ := phrase_starts derived
  rw [same] at found ⊢
  exact ⟨(Cursor.advance_tokens found).1, Cursor.advance_length found⟩

/-! ## Chains of operators -/

def operatorAt : Level → Token → Option (Expr → Expr → Expr)
  | .disjunction => orOperator
  | .conjunction => andOperator
  | .sum => sumOperator
  | .product => productOperator
  | _ => fun _ => none

theorem operator_at_iff (level : Level) (sign : Token) (build : Expr → Expr → Expr) :
    operatorAt level sign = some build ↔ Operator level sign build := by
  constructor
  · intro found
    cases level with
    | disjunction => exact or_operator sign build found
    | conjunction => exact and_operator sign build found
    | sum => exact sum_operator sign build found
    | product => exact product_operator sign build found
    | negation => cases found
    | comparison => cases found
    | signed => cases found
    | value => cases found
  · intro operates
    cases operates <;> rfl

def levelParser (item : Parser Expr) : Level → Parser Expr
  | .disjunction => disjunction item
  | .conjunction => conjunction item
  | .negation => negation item
  | .comparison => comparisonChain item
  | .sum => sum item
  | .product => product item
  | .signed => signed item
  | .value => value item

theorem level_parser_chain {level operand : Level} (chained : Chained level operand)
    (item : Parser Expr) :
    levelParser item level = chain (operatorAt level) (levelParser item operand) := by
  cases chained <;> rfl

theorem links_stop {level : Level} {operand : Parser Expr} (steps : Nat) (left : Expr) (c : Cursor)
    (stops : Stops level c.tokens) :
    links (operatorAt level) operand steps left c = .ok (left, c) := by
  cases steps with
  | zero => rfl
  | succ steps =>
      have none : operatorAt level c.token = none := by
        rw [Option.eq_none_iff_forall_ne_some]
        intro build found
        have operates := (operator_at_iff level c.token build).mp found
        exact stops.noOperator level c.token build (Nat.le_refl _) operates rfl
      unfold links
      rw [none]

theorem links_go_on {level : Level} {operand : Parser Expr} {sign : Token}
    {build : Expr → Expr → Expr} {phrase rest more : List Token} {left right tree : Expr}
    {below : Level} (steps : Nat) (operates : Operator level sign build)
    (derived : Phrase below phrase right) (reads : Reads operand phrase right (Stops below))
    (stops : Stops below (rest ++ more)) (c : Cursor)
    (found : c.tokens = sign :: phrase ++ rest ++ more) (enough : c.later.length ≤ steps)
    (continued : ∀ steps after, after.tokens = rest ++ more → after.later.length ≤ steps →
      Yields (links (operatorAt level) operand steps (build left right) after) tree more) :
    Yields (links (operatorAt level) operand steps left c) tree more := by
  rw [List.append_assoc] at found
  have total := Cursor.tokens_length found
  cases steps with
  | zero =>
      have one := (behind_first derived found).2
      omega
  | succ steps =>
      unfold links
      rw [Cursor.token_of_tokens found, (operator_at_iff level sign build).mpr operates]
      apply deepen_yields
      have behind := (behind_first (c := { c with depth := c.depth + 1 }) derived found).1
      apply yields_bind (reads _ _ behind stops)
      intro after taken
      apply continued steps after taken
      have left := Cursor.tokens_length taken
      simp only [List.length_append, List.length_cons] at total left
      omega

theorem chain_reads {level : Level} {operand : Parser Expr} {below : Level} {first rest : List Token}
    {left tree : Expr} (reads : Reads operand first left (Stops below))
    (stopsFirst : ∀ more, Stops level more → Stops below (rest ++ more))
    (continued : ∀ steps c more, c.tokens = rest ++ more → Stops level more →
      c.later.length ≤ steps → Yields (links (operatorAt level) operand steps left c) tree more) :
    Reads (chain (operatorAt level) operand) (first ++ rest) tree (Stops level) := by
  intro c more found stops
  rw [List.append_assoc] at found
  apply yields_bind (reads c _ found (stopsFirst more stops))
  intro after taken
  apply yields_bind (continued _ after more taken stops (Nat.le_refl _))
  intro last ended
  exact yields_ok ended

/-! ## Comparisons -/

theorem comparison_stop {c : Cursor} (stops : Stops .comparison c.tokens) : comparison c = none := by
  rw [Option.eq_none_iff_forall_ne_some]
  intro found same
  rcases found with ⟨op, after⟩
  obtain ⟨words, sign, taken⟩ := comparison_sign (c := c) stops.ends same
  exact stops.noSign (Nat.le_refl _) words op sign ⟨after.tokens, taken.symm⟩

/-- A comparison operator is read to its last word, as no operand begins with `not`. -/
theorem comparison_reads {c : Cursor} {words rest : List Token} {next : Token} {op : Comparison}
    (sign : Sign words op) (found : c.tokens = words ++ next :: rest) (plain : next ≠ .word "not") :
    ∃ after, comparison c = some (op, after) ∧ after.tokens = next :: rest := by
  unfold comparison
  cases sign with
  | notIn =>
      have behind := Cursor.advance_tokens found
      rw [Cursor.token_of_tokens found]
      refine ⟨c.advance.advance, ?_, (Cursor.advance_tokens behind.1).1⟩
      exact if_pos behind.2
  | notIdentical =>
      have behind := Cursor.advance_tokens found
      rw [Cursor.token_of_tokens found]
      refine ⟨c.advance.advance, ?_, (Cursor.advance_tokens behind.1).1⟩
      exact if_pos behind.2
  | identical =>
      have behind := Cursor.advance_tokens found
      rw [Cursor.token_of_tokens found]
      refine ⟨c.advance, ?_, behind.1⟩
      rw [← behind.2] at plain
      exact if_neg plain
  | _ =>
      rw [Cursor.token_of_tokens found]
      exact ⟨c.advance, rfl, (Cursor.advance_tokens found).1⟩

theorem comparison_links_stop {operand : Parser Expr} (steps : Nat) (c : Cursor)
    (stops : Stops .comparison c.tokens) : comparisonLinks operand steps c = .ok ([], c) := by
  cases steps with
  | zero => rfl
  | succ steps =>
      unfold comparisonLinks
      rw [comparison_stop stops]

theorem comparison_links_go_on {operand : Parser Expr} {words phrase rest more : List Token}
    {op : Comparison} {right : Expr} {linked : List (Comparison × Expr)} (steps : Nat)
    (sign : Sign words op) (derived : Phrase .sum phrase right)
    (reads : Reads operand phrase right (Stops .sum)) (stops : Stops .sum (rest ++ more)) (c : Cursor)
    (found : c.tokens = words ++ phrase ++ rest ++ more) (enough : c.later.length ≤ steps)
    (continued : ∀ steps after, after.tokens = rest ++ more → after.later.length ≤ steps →
      Yields (comparisonLinks operand steps after) linked more) :
    Yields (comparisonLinks operand steps c) ((op, right) :: linked) more := by
  obtain ⟨first, others, same, starts⟩ := phrase_starts derived
  rw [List.append_assoc, List.append_assoc] at found
  have some : words ≠ [] := by cases sign <;> nofun
  have total := Cursor.tokens_length found
  have longer := List.length_pos_iff.mpr some
  rw [same] at total
  simp only [List.length_cons, List.length_append] at total
  cases steps with
  | zero => omega
  | succ steps =>
      have plain := sum_starts_without_not (starts_mono (by decide) starts)
      rw [same, List.cons_append] at found
      obtain ⟨behind, operates, taken⟩ := comparison_reads sign found plain
      rw [← List.cons_append, ← same] at taken
      unfold comparisonLinks
      rw [operates]
      apply yields_bind (reads behind _ taken stops)
      intro after left
      have remaining := Cursor.tokens_length left
      rw [List.length_append] at remaining
      apply yields_bind (continued steps after left (by omega))
      intro last ended
      exact yields_ok ended

theorem comparisons_reads {operand : Parser Expr} {first rest : List Token} {left : Expr}
    {linked : List (Comparison × Expr)} (nonempty : linked ≠ [])
    (reads : Reads operand first left (Stops .sum))
    (stopsFirst : ∀ more, Stops .comparison more → Stops .sum (rest ++ more))
    (continued : ∀ steps c more, c.tokens = rest ++ more → Stops .comparison more →
      c.later.length ≤ steps → Yields (comparisonLinks operand steps c) linked more) :
    Reads (comparisons operand) (first ++ rest) (.compare left linked) (Stops .comparison) := by
  intro c more found stops
  rw [List.append_assoc] at found
  apply yields_bind (reads c _ found (stopsFirst more stops))
  intro after taken
  apply yields_bind (continued _ after more taken stops (Nat.le_refl _))
  intro last ended
  dsimp only
  rw [if_neg (by simpa using nonempty)]
  exact yields_ok ended

/-! ## Words and signs in front of an operand -/

theorem nested_congr {left right : Parser α} {c : Cursor}
    (same : left { c with depth := c.depth + 1 } = right { c with depth := c.depth + 1 }) :
    nested left c = nested right c := by
  unfold nested
  cases deepened : c.deepen with
  | error e => rfl
  | ok inner =>
      cases Cursor.deepen_ok deepened
      change (left _ >>= _) = (right _ >>= _)
      rw [same]

/-- The steps that are left behind a word `not` are those that its operand asks for. -/
theorem negation_of_not {item : Parser Expr} {c : Cursor} (here : c.token = .word "not")
    (longer : c.later.length = c.advance.later.length + 1) :
    negation item c =
      (nested (negation item) c.advance >>= fun inner => .ok (.not inner.1, inner.2)) := by
  have operand : nested (negations (comparisonChain item) c.advance.later.length) c.advance =
      nested (negation item) c.advance := nested_congr rfl
  unfold negation at operand ⊢
  rw [longer, negations, if_pos here, operand]

theorem negation_without_not {item : Parser Expr} {c : Cursor} (plain : c.token ≠ .word "not") :
    negation item c = comparisonChain item c := by
  unfold negation
  cases c.later.length with
  | zero => rfl
  | succ steps => exact if_neg plain

theorem signed_of_minus {item : Parser Expr} {c : Cursor} (here : c.token = .minus)
    (longer : c.later.length = c.advance.later.length + 1) :
    signed item c =
      (nested (signed item) c.advance >>= fun inner => .ok (.neg inner.1, inner.2)) := by
  have operand : nested (signs (value item) c.advance.later.length) c.advance =
      nested (signed item) c.advance := nested_congr rfl
  unfold signed at operand ⊢
  rw [longer, signs, here, ← operand]

theorem signed_of_plus {item : Parser Expr} {c : Cursor} (here : c.token = .plus)
    (longer : c.later.length = c.advance.later.length + 1) :
    signed item c = nested (signed item) c.advance := by
  have operand : nested (signs (value item) c.advance.later.length) c.advance =
      nested (signed item) c.advance := nested_congr rfl
  unfold signed at operand ⊢
  rw [longer, signs, here, ← operand]

theorem signed_without_sign {item : Parser Expr} {c : Cursor} (noPlus : c.token ≠ .plus)
    (noMinus : c.token ≠ .minus) : signed item c = value item c := by
  unfold signed
  cases c.later.length with
  | zero => rfl
  | succ steps =>
      unfold signs
      split
      · rename_i minus
        exact absurd minus noMinus
      · rename_i plus
        exact absurd plus noPlus
      · rfl

theorem negation_reads_not {item : Parser Expr} {phrase : List Token} {tree : Expr}
    (derived : Phrase .negation phrase tree)
    (reads : Reads (negation item) phrase tree (Stops .negation)) :
    Reads (negation item) (.word "not" :: phrase) (.not tree) (Stops .negation) := by
  intro c rest found stops
  have behind := behind_first derived found
  rw [negation_of_not (Cursor.token_of_tokens found) behind.2]
  apply yields_bind (nested_reads reads c.advance rest behind.1 stops)
  intro after taken
  exact yields_ok taken

theorem signed_reads_minus {item : Parser Expr} {phrase : List Token} {tree : Expr}
    (derived : Phrase .signed phrase tree)
    (reads : Reads (signed item) phrase tree (Stops .signed)) :
    Reads (signed item) (.minus :: phrase) (.neg tree) (Stops .signed) := by
  intro c rest found stops
  have behind := behind_first derived found
  rw [signed_of_minus (Cursor.token_of_tokens found) behind.2]
  apply yields_bind (nested_reads reads c.advance rest behind.1 stops)
  intro after taken
  exact yields_ok taken

theorem signed_reads_plus {item : Parser Expr} {phrase : List Token} {tree : Expr}
    (derived : Phrase .signed phrase tree)
    (reads : Reads (signed item) phrase tree (Stops .signed)) :
    Reads (signed item) (.plus :: phrase) tree (Stops .signed) := by
  intro c rest found stops
  have behind := behind_first derived found
  rw [signed_of_plus (Cursor.token_of_tokens found) behind.2]
  exact nested_reads reads c.advance rest behind.1 stops

/-- A phrase that may stand as it is takes the parser past the choice of its level. -/
theorem plain_reads {level below : Level} {item : Parser Expr} {phrase : List Token} {tree : Expr}
    (plain : Plain level below) (derived : Phrase below phrase tree)
    (reads : Reads (levelParser item below) phrase tree (Stops below)) :
    Reads (levelParser item level) phrase tree (Stops level) := by
  intro c rest found stops
  have yields := reads c rest found (stops_mono (plain_rank plain) stops)
  obtain ⟨first, others, same, starts⟩ := phrase_starts derived
  rw [same] at found
  have here := Cursor.token_of_tokens found
  cases plain with
  | negation =>
      have noWord : c.token ≠ .word "not" := by
        rw [here]
        exact sum_starts_without_not starts
      change Yields (negation item c) tree rest
      rw [negation_without_not noWord]
      exact yields
  | comparison =>
      apply yields_bind yields
      intro after taken
      rw [← taken] at stops
      dsimp only
      rw [comparison_links_stop _ after stops]
      exact yields_ok taken
  | signed =>
      have noSign := value_starts_without_sign starts
      rw [← here] at noSign
      change Yields (signed item c) tree rest
      rw [signed_without_sign noSign.1 noSign.2]
      exact yields

/-! ## Items -/

section items

variable {item : Parser Expr} {close : Token}

theorem items_read_none (steps : Nat) (c : Cursor) (rest : List Token)
    (ends : rest.getLast? = some .ending) (found : c.tokens = close :: rest)
    (enough : c.later.length < steps) : Yields (items item close steps c) [] rest := by
  cases steps with
  | zero => omega
  | succ steps =>
      cases rest with
      | nil => cases ends
      | cons next rest =>
          unfold items
          rw [if_pos (Cursor.token_of_tokens found)]
          exact yields_ok (Cursor.advance_tokens found).1

theorem items_open {phrase behind : List Token} {first : Expr} {c : Cursor} (steps : Nat)
    (closing : close = .closeParen ∨ close = .closeBracket)
    (derived : Phrase .disjunction phrase first) (placed : c.tokens = phrase ++ behind) :
    items item close (steps + 1) c = (item c >>= fun found =>
      if found.2.token = .comma then
        items item close steps found.2.advance >>= fun others => .ok (found.1 :: others.1, others.2)
      else found.2.expect close >>= fun last => .ok ([found.1], last)) := by
  obtain ⟨start, others, same, starts⟩ := phrase_starts derived
  rw [same] at placed
  have inside := starts_inside starts
  have notClosed : c.token ≠ close := by
    rw [Cursor.token_of_tokens placed]
    rcases closing with rfl | rfl
    · exact inside.1
    · exact inside.2.1
  rw [items, if_neg notClosed]

theorem items_read_last {phrase rest : List Token} {first : Expr} (steps : Nat) (c : Cursor)
    (closing : close = .closeParen ∨ close = .closeBracket)
    (derived : Phrase .disjunction phrase first)
    (reads : Reads item phrase first (Stops .disjunction)) (ends : rest.getLast? = some .ending)
    (placed : c.tokens = phrase ++ close :: rest) (enough : c.later.length < steps) :
    Yields (items item close steps c) [first] rest := by
  cases rest with
  | nil => cases ends
  | cons next rest =>
      have stops : Stops .disjunction (close :: next :: rest) := by
        apply stops_outside (ends_append ends [close])
        rcases closing with rfl | rfl
        · exact .inl rfl
        · exact .inr (.inl rfl)
      cases steps with
      | zero => omega
      | succ steps =>
          rw [items_open steps closing derived placed]
          apply yields_bind (reads c _ placed stops)
          intro after taken
          have noComma : after.token ≠ .comma := by
            rw [Cursor.token_of_tokens taken]
            rcases closing with rfl | rfl <;> decide
          dsimp only
          rw [if_neg noComma]
          exact expect_yields taken

theorem items_read_more {phrase listed rest : List Token} {first : Expr} {others : List Expr}
    (steps : Nat) (c : Cursor) (closing : close = .closeParen ∨ close = .closeBracket)
    (derived : Phrase .disjunction phrase first)
    (reads : Reads item phrase first (Stops .disjunction)) (ends : rest.getLast? = some .ending)
    (placed : c.tokens = phrase ++ .comma :: listed ++ close :: rest) (enough : c.later.length < steps)
    (continued : ∀ steps after, after.tokens = listed ++ close :: rest → after.later.length < steps →
      Yields (items item close steps after) others rest) :
    Yields (items item close steps c) (first :: others) rest := by
  have endsBehind := ends_append (ends_append ends [close]) listed
  change (listed ++ close :: rest).getLast? = some .ending at endsBehind
  -- Whether items follow the comma or the closing token does, some token stands behind it.
  rw [List.append_assoc, List.cons_append] at placed
  generalize behindComma : listed ++ close :: rest = behind at placed continued endsBehind
  cases behind with
  | nil => cases endsBehind
  | cons next more =>
      have total := Cursor.tokens_length placed
      simp only [List.length_cons, List.length_append] at total
      have comma : Stops .disjunction (.comma :: next :: more) :=
        stops_outside (ends_append endsBehind [.comma]) (.inr (.inr (.inl rfl)))
      cases steps with
      | zero => omega
      | succ steps =>
          rw [items_open steps closing derived placed]
          apply yields_bind (reads c _ placed comma)
          intro after taken
          have left := Cursor.tokens_length (Cursor.advance_tokens taken).1
          rw [List.length_cons] at left
          dsimp only
          rw [if_pos (Cursor.token_of_tokens taken)]
          apply yields_bind (continued steps after.advance (Cursor.advance_tokens taken).1 (by omega))
          intro last ended
          exact yields_ok ended

end items

/-! ## Values -/

section values

variable {item : Parser Expr}

theorem single_reads {c : Cursor} {first : Token} {rest : List Token} (tree : Expr)
    (found : c.tokens = [first] ++ rest) (stops : Stops .value rest) :
    Yields (.ok (tree, c.advance)) tree rest := by
  cases rest with
  | nil => cases stops.ends
  | cons next rest => exact yields_ok (Cursor.advance_tokens found).1

theorem integer_reads (n : Int64) :
    Reads (value item) [.integer n] (.literal (.integer n)) (Stops .value) := by
  intro c rest found stops
  unfold value
  rw [Cursor.token_of_tokens found]
  exact single_reads _ found stops

theorem float_reads {lexeme : String} {x : Float} (read : Binary64.read? lexeme.toList = some x) :
    Reads (value item) [.float lexeme] (.literal (.float x)) (Stops .value) := by
  intro c rest found stops
  unfold value
  rw [Cursor.token_of_tokens found]
  dsimp only
  unfold floatLiteral
  rw [read]
  exact single_reads _ found stops

theorem string_reads (text : String) :
    Reads (value item) [.string text] (.literal (.string text)) (Stops .value) := by
  intro c rest found stops
  unfold value
  rw [Cursor.token_of_tokens found]
  exact single_reads _ found stops

theorem literal_reads {text : String} {literal : Literal} (known : LiteralWord text literal) :
    Reads (value item) [.word text] (.literal literal) (Stops .value) := by
  intro c rest found stops
  have word : wordLiteral? text = some literal := by cases known <;> rfl
  unfold value
  rw [Cursor.token_of_tokens found]
  dsimp only
  unfold Parser.word
  rw [word]
  exact single_reads _ found stops

theorem name_reads {text : String} (free : text ∉ keywords) :
    Reads (value item) [.word text] (.field text) (Stops .value) := by
  intro c rest found stops
  obtain ⟨unknown, plain⟩ := (not_keyword_iff text).mp free
  unfold value
  rw [Cursor.token_of_tokens found]
  dsimp only
  unfold word
  rw [unknown]
  cases rest with
  | nil => cases stops.ends
  | cons next rest =>
      have noCall : c.nextToken ≠ .openParen := by
        rw [(Cursor.advance_tokens found).2]
        intro same
        exact stops.noCall (congrArg some same)
      dsimp only
      rw [if_neg (by simpa using plain), if_neg noCall]
      exact yields_ok (Cursor.advance_tokens found).1

theorem call_reads {phrase : List Token} {arguments : List Expr} (builtin : Builtin)
    (admitted : builtin.admits arguments.length = true)
    (reads : ∀ steps c rest, c.tokens = phrase ++ .closeParen :: rest →
      rest.getLast? = some .ending → c.later.length < steps →
        Yields (items item .closeParen steps c) arguments rest) :
    Reads (value item) (.word builtin.name :: .openParen :: phrase ++ [.closeParen])
      (.call builtin arguments) (Stops .value) := by
  intro c rest found stops
  have named : Builtin.ofName? builtin.name = some builtin := by cases builtin <;> decide
  have free : wordLiteral? builtin.name = none ∧ isKeyword builtin.name = false := by
    cases builtin <;> decide
  simp only [List.cons_append, List.append_assoc, List.nil_append] at found
  have behind := Cursor.advance_tokens found
  unfold value
  rw [Cursor.token_of_tokens found]
  dsimp only
  unfold word
  rw [free.1]
  dsimp only
  rw [if_neg (by rw [free.2]; decide), if_pos behind.2]
  unfold call
  rw [named]
  generalize arguments_placed : phrase ++ .closeParen :: rest = listed at found behind
  cases listed with
  | nil => simp at arguments_placed
  | cons first others =>
      have inside := (Cursor.advance_tokens behind.1).1
      rw [← arguments_placed] at inside
      apply yields_bind (reads _ c.advance.advance rest inside stops.ends (Nat.lt_succ_self _))
      intro after taken
      dsimp only
      rw [if_pos admitted]
      exact yields_ok taken

theorem parentheses_read {phrase : List Token} {tree : Expr}
    (derived : Phrase .disjunction phrase tree)
    (reads : Reads item phrase tree (Stops .disjunction)) :
    Reads (value item) (.openParen :: phrase ++ [.closeParen]) tree (Stops .value) := by
  intro c rest found stops
  have closed : c.tokens = .openParen :: phrase ++ .closeParen :: rest := by
    rw [found, List.append_assoc]
    rfl
  have behind := (behind_first derived closed).1
  cases rest with
  | nil => cases stops.ends
  | cons next rest =>
      have closing : Stops .disjunction (.closeParen :: next :: rest) :=
        stops_outside (ends_append stops.ends [.closeParen]) (.inl rfl)
      unfold value
      rw [Cursor.token_of_tokens found]
      apply yields_bind (reads c.advance _ behind closing)
      intro after taken
      exact expect_yields taken

theorem list_reads {phrase : List Token} {found : List Expr}
    (reads : ∀ steps c rest, c.tokens = phrase ++ .closeBracket :: rest →
      rest.getLast? = some .ending → c.later.length < steps →
        Yields (items item .closeBracket steps c) found rest) :
    Reads (value item) (.openBracket :: phrase ++ [.closeBracket]) (.list found) (Stops .value) := by
  intro c rest placed stops
  simp only [List.cons_append, List.append_assoc, List.nil_append] at placed
  unfold value
  rw [Cursor.token_of_tokens placed]
  generalize items_placed : phrase ++ .closeBracket :: rest = listed at placed
  cases listed with
  | nil => simp at items_placed
  | cons first others =>
      have inside := (Cursor.advance_tokens placed).1
      rw [← items_placed] at inside
      apply yields_bind (reads _ c.advance rest inside stops.ends (Nat.lt_succ_self _))
      intro after taken
      exact yields_ok taken

end values

/-! ## Whole derivations -/

theorem expression_reads {phrase : List Token} {tree : Expr}
    (reads : ∀ remaining, Reads (disjunction (expression remaining)) phrase tree (Stops .disjunction))
    (remaining : Nat) : Reads (expression remaining) phrase tree (Stops .disjunction) := by
  intro c rest found stops
  -- The derivation stays the same while a level is used, hence the reading for every number of levels.
  cases remaining with
  | zero => exact .inr ⟨_, rfl⟩
  | succ remaining =>
      exact nested_yields (reads remaining { c with depth := c.depth + 1 } rest found stops)

mutual

theorem phrase_reads {level : Level} {phrase : List Token} {tree : Expr}
    (derived : Phrase level phrase tree) (remaining : Nat) :
    Reads (levelParser (expression remaining) level) phrase tree (Stops level) := by
  match derived with
  | .chain chained start links =>
      rw [level_parser_chain chained]
      apply chain_reads (phrase_reads start remaining)
      · intro more
        exact stops_before_chain chained links
      · intro steps c more
        exact chain_links_read chained links remaining steps c more
  | .plain plain alone => exact plain_reads plain alone (phrase_reads alone remaining)
  | .not operand => exact negation_reads_not operand (phrase_reads operand remaining)
  | .compare start linked nonempty =>
      apply comparisons_reads nonempty (phrase_reads start remaining)
      · intro more
        exact stops_before_links linked
      · intro steps c more
        exact comparison_links_read linked remaining steps c more
  | .minus operand => exact signed_reads_minus operand (phrase_reads operand remaining)
  | .plus operand => exact signed_reads_plus operand (phrase_reads operand remaining)
  | .integer n => exact integer_reads n
  | .float read => exact float_reads read
  | .string text => exact string_reads text
  | .literal known => exact literal_reads known
  | .name free => exact name_reads free
  | .call builtin listed admitted =>
      apply call_reads builtin admitted
      intro steps c rest
      exact items_read listed remaining .closeParen (.inl rfl) steps c rest
  | .parentheses inner =>
      exact parentheses_read inner
        (expression_reads (fun remaining => phrase_reads inner remaining) remaining)
  | .list listed =>
      apply list_reads
      intro steps c rest
      exact items_read listed remaining .closeBracket (.inr rfl) steps c rest

theorem chain_links_read {level operand : Level} {left tree : Expr} {rest : List Token}
    (chained : Chained level operand) (derived : Chain level operand left rest tree) (remaining : Nat)
    (steps : Nat) (c : Cursor) (more : List Token) (found : c.tokens = rest ++ more)
    (stops : Stops level more) (enough : c.later.length ≤ steps) :
    Yields (links (operatorAt level) (levelParser (expression remaining) operand) steps left c)
      tree more := by
  match derived with
  | .done level operand tree =>
      rw [List.nil_append] at found
      rw [links_stop steps tree c (found ▸ stops)]
      exact yields_ok found
  | .link operates behind links =>
      apply links_go_on steps operates behind (phrase_reads behind remaining)
        (stops_before_chain chained links stops) c found enough
      intro steps after taken enough
      exact chain_links_read chained links remaining steps after more taken stops enough

theorem comparison_links_read {phrase : List Token} {linked : List (Comparison × Expr)}
    (derived : Links phrase linked) (remaining : Nat) (steps : Nat) (c : Cursor) (more : List Token)
    (found : c.tokens = phrase ++ more) (stops : Stops .comparison more)
    (enough : c.later.length ≤ steps) :
    Yields (comparisonLinks (sum (expression remaining)) steps c) linked more := by
  match derived with
  | .done =>
      rw [List.nil_append] at found
      rw [comparison_links_stop steps c (found ▸ stops)]
      exact yields_ok found
  | .link sign behind links =>
      apply comparison_links_go_on steps sign behind (phrase_reads behind remaining)
        (stops_before_links links stops) c found enough
      intro steps after taken enough
      exact comparison_links_read links remaining steps after more taken stops enough

theorem items_read {phrase : List Token} {found : List Expr} (derived : Items phrase found)
    (remaining : Nat) (close : Token) (closing : close = .closeParen ∨ close = .closeBracket)
    (steps : Nat) (c : Cursor) (rest : List Token) (placed : c.tokens = phrase ++ close :: rest)
    (ends : rest.getLast? = some .ending) (enough : c.later.length < steps) :
    Yields (items (expression remaining) close steps c) found rest := by
  match derived with
  | .none => exact items_read_none steps c rest ends placed enough
  | .last only =>
      exact items_read_last steps c closing only
        (expression_reads (fun remaining => phrase_reads only remaining) remaining) ends placed enough
  | .more first others =>
      apply items_read_more steps c closing first
        (expression_reads (fun remaining => phrase_reads first remaining) remaining) ends placed enough
      intro steps after taken enough
      exact items_read others remaining close closing steps after rest taken ends enough

end

end Parser

end QueryCheck.Condition

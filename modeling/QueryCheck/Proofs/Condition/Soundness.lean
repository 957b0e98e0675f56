import QueryCheck.Proofs.Condition.Cursor
import QueryCheck.Proofs.Condition.Grammar
import QueryCheck.Proofs.Except

/-!
# What the parser accepts

A parser that succeeds has taken a phrase away from the front of the tokens, and its result is the tree
of that phrase. This holds of every parser as soon as it holds of the parsers that it is made of, however
many steps its loops are given.
-/

namespace QueryCheck.Condition.Parser

set_option autoImplicit false

def Sound {α : Type} (parser : Parser α) (derives : List Token → α → Prop) : Prop :=
  ∀ c result after, c.Ends → parser c = .ok (result, after) →
    ∃ phrase, c.tokens = phrase ++ after.tokens ∧ derives phrase result

/-- A derivation for the tokens behind the first one. -/
theorem sound_behind {α : Type} {parser : Parser α} {derives : List Token → α → Prop}
    (sound : Sound parser derives) {c after : Cursor} {first : Token} {result : α} (ends : c.Ends)
    (here : c.token = first) (inside : first ≠ .ending)
    (parsed : parser c.advance = .ok (result, after)) :
    ∃ phrase, c.tokens = first :: phrase ++ after.tokens ∧ derives phrase result := by
  have split := (Cursor.advance_over ends here inside).1
  have endsBehind := Cursor.advance_ends ends here inside
  obtain ⟨phrase, taken, derived⟩ := sound c.advance result after endsBehind parsed
  refine ⟨phrase, ?_, derived⟩
  rw [split, taken]
  rfl

theorem nested_sound {α : Type} {parser : Parser α} {derives : List Token → α → Prop}
    (sound : Sound parser derives) : Sound (nested parser) derives := by
  intro c result after ends parsed
  simp only [nested, except_bind_ok] at parsed
  obtain ⟨inner, deepened, ⟨found, behind⟩, run, same⟩ := parsed
  cases same
  cases Cursor.deepen_ok deepened
  exact sound { c with depth := c.depth + 1 } found behind ends run

/-! ## Chains of operators -/

section chains

variable {level operandLevel : Level} {operator : Token → Option (Expr → Expr → Expr)}
  {operand : Parser Expr}

theorem links_sound (known : ∀ sign build, operator sign = some build → Operator level sign build)
    (sound : Sound operand (Phrase operandLevel)) (steps : Nat) (left : Expr) :
    Sound (links operator operand steps left) (Chain level operandLevel left) := by
  induction steps generalizing left with
  | zero =>
      intro c result after ends parsed
      cases parsed
      exact ⟨[], rfl, .done level operandLevel left⟩
  | succ steps induction =>
      intro c result after ends parsed
      unfold links at parsed
      split at parsed
      · cases parsed
        exact ⟨[], rfl, .done level operandLevel left⟩
      · rename_i build found
        have sign := known c.token build found
        have inside : c.token ≠ .ending := by
          intro ending
          rw [ending] at sign
          cases sign
        simp only [except_bind_ok] at parsed
        obtain ⟨deeper, deepened, ⟨right, behind⟩, run, linked⟩ := parsed
        cases Cursor.deepen_ok deepened
        obtain ⟨phrase, taken, derived⟩ :=
          sound_behind (c := { c with depth := c.depth + 1 }) sound ends rfl inside run
        obtain ⟨rest, takenRest, chained⟩ := induction (build left right) behind result after
          (Cursor.ends_of_suffix ends taken) linked
        refine ⟨c.token :: phrase ++ rest, ?_, .link sign derived chained⟩
        rw [List.append_assoc, ← takenRest]
        exact taken

theorem chain_sound (chained : Chained level operandLevel)
    (known : ∀ sign build, operator sign = some build → Operator level sign build)
    (sound : Sound operand (Phrase operandLevel)) :
    Sound (chain operator operand) (Phrase level) := by
  intro c result after ends parsed
  simp only [chain, except_bind_ok] at parsed
  obtain ⟨⟨first, behind⟩, run, ⟨tree, last⟩, linked, same⟩ := parsed
  cases same
  obtain ⟨start, taken, derived⟩ := sound c first behind ends run
  obtain ⟨rest, takenRest, links⟩ := links_sound known sound _ first behind tree last
    (Cursor.ends_of_suffix ends taken) linked
  refine ⟨start ++ rest, ?_, .chain chained derived links⟩
  rw [List.append_assoc, taken, takenRest]
  rfl

end chains

theorem or_operator (sign : Token) (build : Expr → Expr → Expr) :
    orOperator sign = some build → Operator .disjunction sign build := by
  intro found
  unfold orOperator at found
  split at found
  · cases found
    exact .or
  · cases found

theorem and_operator (sign : Token) (build : Expr → Expr → Expr) :
    andOperator sign = some build → Operator .conjunction sign build := by
  intro found
  unfold andOperator at found
  split at found
  · cases found
    exact .and
  · cases found

theorem sum_operator (sign : Token) (build : Expr → Expr → Expr) :
    sumOperator sign = some build → Operator .sum sign build := by
  intro found
  unfold sumOperator at found
  split at found
  · cases found
    exact .add
  · cases found
    exact .sub
  · cases found

theorem product_operator (sign : Token) (build : Expr → Expr → Expr) :
    productOperator sign = some build → Operator .product sign build := by
  intro found
  unfold productOperator at found
  split at found
  · cases found
    exact .mul
  · cases found
    exact .div
  · cases found
    exact .mod
  · cases found

/-! ## Comparisons -/

theorem comparison_sign {c after : Cursor} {op : Comparison} (ends : c.Ends)
    (found : comparison c = some (op, after)) :
    ∃ words, Sign words op ∧ c.tokens = words ++ after.tokens := by
  have one : ∀ {sign}, c.token = sign → sign ≠ .ending → c.tokens = [sign] ++ c.advance.tokens := by
    intro sign here inside
    exact (Cursor.advance_over ends here inside).1
  have two : ∀ {first second}, c.token = first → first ≠ .ending → c.nextToken = second →
      second ≠ .ending → c.tokens = [first, second] ++ c.advance.advance.tokens := by
    intro first second here inside next insideNext
    have behind := (Cursor.advance_over ends here inside).2
    rw [next] at behind
    rw [one here inside,
      (Cursor.advance_over (Cursor.advance_ends ends here inside) behind insideNext).1]
    rfl
  unfold comparison at found
  split at found
  · rename_i here
    cases found
    exact ⟨_, .equal, one here nofun⟩
  · rename_i here
    cases found
    exact ⟨_, .notEqual, one here nofun⟩
  · rename_i here
    cases found
    exact ⟨_, .less, one here nofun⟩
  · rename_i here
    cases found
    exact ⟨_, .lessEqual, one here nofun⟩
  · rename_i here
    cases found
    exact ⟨_, .greater, one here nofun⟩
  · rename_i here
    cases found
    exact ⟨_, .greaterEqual, one here nofun⟩
  · rename_i here
    cases found
    exact ⟨_, .isIn, one here nofun⟩
  · rename_i here
    split at found
    · rename_i next
      cases found
      exact ⟨_, .notIn, two here nofun next nofun⟩
    · cases found
  · rename_i here
    split at found
    · rename_i next
      cases found
      exact ⟨_, .notIdentical, two here nofun next nofun⟩
    · cases found
      exact ⟨_, .identical, one here nofun⟩
  · cases found

theorem comparison_links_sound {operand : Parser Expr} (sound : Sound operand (Phrase .sum))
    (steps : Nat) : Sound (comparisonLinks operand steps) Links := by
  induction steps with
  | zero =>
      intro c result after ends parsed
      cases parsed
      exact ⟨[], rfl, .done⟩
  | succ steps induction =>
      intro c result after ends parsed
      unfold comparisonLinks at parsed
      split at parsed
      · cases parsed
        exact ⟨[], rfl, .done⟩
      · rename_i op behindSign found
        obtain ⟨words, sign, takenSign⟩ := comparison_sign ends found
        simp only [except_bind_ok] at parsed
        obtain ⟨⟨right, behind⟩, run, ⟨more, last⟩, linked, same⟩ := parsed
        cases same
        have endsSign := Cursor.ends_of_suffix ends takenSign
        obtain ⟨phrase, taken, derived⟩ := sound _ _ _ endsSign run
        obtain ⟨rest, takenRest, links⟩ := induction _ _ _
          (Cursor.ends_of_suffix endsSign taken) linked
        refine ⟨words ++ phrase ++ rest, ?_, .link sign derived links⟩
        rw [takenSign, taken, takenRest, List.append_assoc, List.append_assoc]

theorem comparisons_sound {operand : Parser Expr} (sound : Sound operand (Phrase .sum)) :
    Sound (comparisons operand) (Phrase .comparison) := by
  intro c result after ends parsed
  simp only [comparisons, except_bind_ok] at parsed
  obtain ⟨⟨first, behind⟩, run, ⟨links, last⟩, linked, same⟩ := parsed
  cases same
  obtain ⟨start, taken, derived⟩ := sound c first behind ends run
  obtain ⟨rest, takenRest, linked⟩ := comparison_links_sound sound _ behind links last
    (Cursor.ends_of_suffix ends taken) linked
  rw [takenRest, ← List.append_assoc] at taken
  refine ⟨start ++ rest, taken, ?_⟩
  cases linked with
  | done =>
      rw [List.append_nil]
      exact .plain .comparison derived
  | link sign right links => exact .compare derived (.link sign right links) (List.cons_ne_nil _ _)

/-! ## Words and signs in front of an operand -/

theorem negations_sound {operand : Parser Expr} (sound : Sound operand (Phrase .comparison))
    (steps : Nat) : Sound (negations operand steps) (Phrase .negation) := by
  have alone : Sound operand (Phrase .negation) := by
    intro c result after ends parsed
    obtain ⟨phrase, taken, derived⟩ := sound c result after ends parsed
    exact ⟨phrase, taken, .plain .negation derived⟩
  induction steps with
  | zero => exact alone
  | succ steps induction =>
      intro c result after ends parsed
      unfold negations at parsed
      split at parsed
      · rename_i here
        simp only [except_bind_ok] at parsed
        obtain ⟨⟨inner, behind⟩, run, same⟩ := parsed
        cases same
        obtain ⟨phrase, taken, derived⟩ := sound_behind (nested_sound induction) ends here nofun run
        exact ⟨_, taken, .not derived⟩
      · exact alone c result after ends parsed

theorem signs_sound {operand : Parser Expr} (sound : Sound operand (Phrase .value)) (steps : Nat) :
    Sound (signs operand steps) (Phrase .signed) := by
  have alone : Sound operand (Phrase .signed) := by
    intro c result after ends parsed
    obtain ⟨phrase, taken, derived⟩ := sound c result after ends parsed
    exact ⟨phrase, taken, .plain .signed derived⟩
  induction steps with
  | zero => exact alone
  | succ steps induction =>
      intro c result after ends parsed
      unfold signs at parsed
      split at parsed
      · rename_i here
        simp only [except_bind_ok] at parsed
        obtain ⟨⟨inner, behind⟩, run, same⟩ := parsed
        cases same
        obtain ⟨phrase, taken, derived⟩ := sound_behind (nested_sound induction) ends here nofun run
        exact ⟨_, taken, .minus derived⟩
      · rename_i here
        obtain ⟨phrase, taken, derived⟩ := sound_behind (nested_sound induction) ends here nofun parsed
        exact ⟨_, taken, .plus derived⟩
      · exact alone c result after ends parsed

/-! ## Items -/

theorem items_sound {item : Parser Expr} (sound : Sound item (Phrase .disjunction)) (close : Token)
    (closing : close ≠ .ending) (steps : Nat) :
    Sound (items item close steps) fun phrase found =>
      ∃ inner, phrase = inner ++ [close] ∧ Items inner found := by
  have closed : ∀ {c : Cursor}, c.Ends → c.token = close →
      c.tokens = [close] ++ c.advance.tokens := by
    intro c ends here
    exact (Cursor.advance_over ends here closing).1
  induction steps with
  | zero =>
      intro c result after ends parsed
      simp only [items, except_bind_ok] at parsed
      obtain ⟨behind, expected, same⟩ := parsed
      cases same
      obtain ⟨here, rfl⟩ := Cursor.expect_ok expected
      exact ⟨[close], closed ends here, [], rfl, .none⟩
  | succ steps induction =>
      intro c result after ends parsed
      unfold items at parsed
      split at parsed
      · rename_i here
        cases parsed
        exact ⟨[close], closed ends here, [], rfl, .none⟩
      · simp only [except_bind_ok] at parsed
        obtain ⟨⟨first, behind⟩, run, continued⟩ := parsed
        obtain ⟨phrase, taken, derived⟩ := sound c first behind ends run
        have endsBehind := Cursor.ends_of_suffix ends taken
        dsimp only at continued
        split at continued
        · rename_i here
          simp only [except_bind_ok] at continued
          obtain ⟨⟨others, last⟩, listed, same⟩ := continued
          cases same
          obtain ⟨rest, takenRest, inner, split, items⟩ :=
            sound_behind induction endsBehind here nofun listed
          refine ⟨phrase ++ .comma :: rest, ?_, phrase ++ .comma :: inner, ?_, .more derived items⟩
          · rw [taken, takenRest, List.append_assoc]
          · rw [split, List.append_assoc]
            rfl
        · simp only [except_bind_ok] at continued
          obtain ⟨last, expected, same⟩ := continued
          cases same
          obtain ⟨here, rfl⟩ := Cursor.expect_ok expected
          refine ⟨phrase ++ [close], ?_, phrase, rfl, .last derived⟩
          rw [taken, List.append_assoc, ← closed endsBehind here]

/-! ## Values -/

theorem builtin_of_name {name : String} {builtin : Builtin}
    (found : Builtin.ofName? name = some builtin) : builtin.name = name := by
  have named := List.find?_some found
  simpa using named

theorem word_literal {text : String} {literal : Literal} (found : wordLiteral? text = some literal) :
    LiteralWord text literal := by
  unfold wordLiteral? at found
  split at found
  · cases found
    exact .true
  · cases found
    exact .trueAlias
  · cases found
    exact .false
  · cases found
    exact .falseAlias
  · cases found
    exact .null
  · cases found
    exact .nullAlias
  · cases found

/-- What is neither a literal nor a keyword without value is a name. -/
theorem not_keyword_iff (text : String) :
    text ∉ keywords ↔ wordLiteral? text = none ∧ isKeyword text = false := by
  constructor
  · intro free
    have others : ∀ word ∈ keywords, text ≠ word := by
      intro word member same
      rw [same] at free
      exact free member
    constructor
    · unfold wordLiteral?
      split
      · exact absurd rfl (others _ (by decide))
      · exact absurd rfl (others _ (by decide))
      · exact absurd rfl (others _ (by decide))
      · exact absurd rfl (others _ (by decide))
      · exact absurd rfl (others _ (by decide))
      · exact absurd rfl (others _ (by decide))
      · rfl
    · unfold isKeyword
      rw [List.contains_eq_any_beq, List.any_eq_false]
      intro word member same
      exact others word (valueless_is_keyword member) (eq_of_beq same)
  · intro free member
    have each : ∀ word ∈ keywords, ¬(wordLiteral? word = none ∧ isKeyword word = false) := by decide
    exact each text member free

section values

variable {item : Parser Expr}

theorem call_sound (sound : Sound item (Phrase .disjunction)) (name : String) (c : Cursor)
    (result : Expr) (after : Cursor) (ends : c.Ends) (here : c.token = .word name)
    (next : c.nextToken = .openParen) (parsed : call item name c = .ok (result, after)) :
    ∃ phrase, c.tokens = phrase ++ after.tokens ∧ Phrase .value phrase result := by
  unfold call at parsed
  split at parsed
  · cases parsed
  · rename_i builtin found
    cases builtin_of_name found
    simp only [except_bind_ok] at parsed
    obtain ⟨⟨arguments, last⟩, listed, made⟩ := parsed
    dsimp only at made
    split at made
    · rename_i admitted
      cases made
      have behind := Cursor.advance_over ends here nofun
      rw [next] at behind
      have endsBehind := Cursor.advance_ends ends here nofun
      obtain ⟨phrase, taken, inner, split, items⟩ :=
        sound_behind (items_sound sound .closeParen nofun _) endsBehind behind.2 nofun listed
      refine ⟨_, ?_, .call builtin items admitted⟩
      rw [behind.1, taken, split]
      rfl
    · cases made

theorem word_sound (sound : Sound item (Phrase .disjunction)) (text : String) (c : Cursor)
    (result : Expr) (after : Cursor) (ends : c.Ends) (here : c.token = .word text)
    (parsed : word item text c = .ok (result, after)) :
    ∃ phrase, c.tokens = phrase ++ after.tokens ∧ Phrase .value phrase result := by
  have single := (Cursor.advance_over ends here nofun).1
  unfold word at parsed
  split at parsed
  · rename_i literal found
    cases parsed
    exact ⟨_, single, .literal (word_literal found)⟩
  · rename_i unknown
    split at parsed
    · cases parsed
    · rename_i free
      split at parsed
      · rename_i next
        exact call_sound sound text c result after ends here next parsed
      · cases parsed
        exact ⟨_, single, .name ((not_keyword_iff text).mpr ⟨unknown, Bool.eq_false_iff.mpr free⟩)⟩

theorem parentheses_sound (sound : Sound item (Phrase .disjunction)) (c : Cursor) (result : Expr)
    (after : Cursor) (ends : c.Ends) (here : c.token = .openParen)
    (parsed : (item c.advance >>= fun found =>
      found.2.expect .closeParen >>= fun last => .ok (found.1, last)) = .ok (result, after)) :
    ∃ phrase, c.tokens = phrase ++ after.tokens ∧ Phrase .value phrase result := by
  simp only [except_bind_ok] at parsed
  obtain ⟨⟨inner, behind⟩, run, last, expected, same⟩ := parsed
  cases same
  obtain ⟨close, rfl⟩ := Cursor.expect_ok expected
  obtain ⟨phrase, taken, derived⟩ := sound_behind sound ends here nofun run
  have last := (Cursor.advance_over (Cursor.ends_of_suffix ends taken) close nofun).1
  refine ⟨_, ?_, .parentheses derived⟩
  rw [taken, last]
  exact (List.append_assoc (.openParen :: phrase) [.closeParen] _).symm

theorem list_sound (sound : Sound item (Phrase .disjunction)) (c : Cursor) (result : Expr)
    (after : Cursor) (ends : c.Ends) (here : c.token = .openBracket)
    (parsed : (itemList item .closeBracket c.advance >>= fun found =>
      .ok (.list found.1, found.2)) = .ok (result, after)) :
    ∃ phrase, c.tokens = phrase ++ after.tokens ∧ Phrase .value phrase result := by
  simp only [except_bind_ok] at parsed
  obtain ⟨⟨found, behind⟩, listed, same⟩ := parsed
  cases same
  obtain ⟨phrase, taken, inner, split, items⟩ :=
    sound_behind (items_sound sound .closeBracket nofun _) ends here nofun listed
  refine ⟨_, ?_, .list items⟩
  rw [taken, split]
  rfl

theorem value_sound (sound : Sound item (Phrase .disjunction)) : Sound (value item) (Phrase .value) := by
  intro c result after ends
  have single : ∀ {first}, c.token = first → first ≠ .ending →
      c.tokens = [first] ++ c.advance.tokens := by
    intro first here inside
    exact (Cursor.advance_over ends here inside).1
  unfold value
  cases here : c.token with
  | integer n =>
      intro parsed
      cases parsed
      exact ⟨_, single here nofun, .integer n⟩
  | float lexeme =>
      intro parsed
      dsimp only at parsed
      unfold floatLiteral at parsed
      split at parsed
      · rename_i x read
        cases parsed
        exact ⟨_, single here nofun, .float read⟩
      · cases parsed
  | string text =>
      intro parsed
      cases parsed
      exact ⟨_, single here nofun, .string text⟩
  | word text =>
      intro parsed
      exact word_sound sound text c result after ends here parsed
  | openParen =>
      intro parsed
      exact parentheses_sound sound c result after ends here parsed
  | openBracket =>
      intro parsed
      exact list_sound sound c result after ends here parsed
  | _ =>
      intro parsed
      cases parsed

theorem disjunction_sound (sound : Sound item (Phrase .disjunction)) :
    Sound (disjunction item) (Phrase .disjunction) := by
  have signed : Sound (signed item) (Phrase .signed) := fun c =>
    signs_sound (value_sound sound) c.later.length c
  have product := chain_sound .product product_operator signed
  have sum := chain_sound .sum sum_operator product
  have negation : Sound (negation item) (Phrase .negation) := fun c =>
    negations_sound (comparisons_sound sum) c.later.length c
  exact chain_sound .disjunction or_operator (chain_sound .conjunction and_operator negation)

end values

theorem expression_sound (remaining : Nat) : Sound (expression remaining) (Phrase .disjunction) := by
  induction remaining with
  | zero =>
      intro c result after ends parsed
      cases parsed
  | succ remaining induction => exact nested_sound (disjunction_sound induction)

end QueryCheck.Condition.Parser

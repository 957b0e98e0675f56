import QueryCheck.Condition.Evaluation
import QueryCheck.Proofs.Condition.Spelling
import QueryCheck.Proofs.Condition.SufficientLevels
import QueryCheck.Proofs.Value.WholeNumbers

/-!
# Values as conditions

The text in which null, a truth value, a whole number, a string or an array of these is shown is a
condition, and its value on every row is the value that is shown.
-/

namespace QueryCheck.Condition

set_option autoImplicit false

/-- Values that can be written in a condition, with at most so many arrays around each other. The
magnitude of the least INT64 is no number that a condition can name. -/
inductive Writable : Nat → Value → Prop where
  | null (arrays : Nat) : Writable arrays .null
  | bool (arrays : Nat) (b : Bool) : Writable arrays (.bool b)
  | int64 (arrays : Nat) {n : Int64} (negatable : n ≠ Int64.minValue) : Writable arrays (.int64 n)
  | string (arrays : Nat) (text : String) : Writable arrays (.string text)
  | array {arrays : Nat} {items : List Value} (each : ∀ item ∈ items, Writable arrays item) :
      Writable (arrays + 1) (.array items)

/-! ## Phrases with their levels -/

/-- The phrase is an expression within so many levels. -/
def WithinLevels (levels : Nat) (phrase : List Token) (tree : Expr) : Prop :=
  ∀ remaining, levels ≤ remaining → Parser.ReadWithin levels (Parser.expression remaining) phrase tree

theorem within_more {levels more : Nat} {phrase : List Token} {tree : Expr} (fewer : levels ≤ more)
    (within : WithinLevels levels phrase tree) : WithinLevels more phrase tree := by
  intro remaining enough
  have reads := within remaining (by omega)
  exact ⟨reads.headed, fun c rest found stops left => reads.suffice c rest found stops (by omega)⟩

/-- A phrase of any level is an expression within one level more. -/
theorem within_of_level (below : Level) {levels : Nat} {phrase : List Token} {tree : Expr}
    (headed : ∃ first others, phrase = first :: others ∧ Starts below first)
    (suffice : ∀ remaining, levels ≤ remaining →
      Parser.Suffice levels (Parser.levelParser (Parser.expression remaining) below) phrase tree
        (Stops below)) :
    WithinLevels (levels + 1) phrase tree := by
  have lower : below.rank ≤ Level.disjunction.rank := by cases below <;> decide
  intro remaining enough
  cases remaining with
  | zero => omega
  | succ remaining =>
      constructor
      · obtain ⟨first, others, same, starts⟩ := headed
        exact ⟨first, others, same, starts_mono lower starts⟩
      · exact Parser.nested_suffice (Parser.suffice_above lower headed (suffice remaining (by omega)))

theorem word_within {text : String} {literal : Literal}
    (known : Parser.wordLiteral? text = some literal) (starts : (Token.word text).startsValue = true) :
    WithinLevels 1 [.word text] (.literal literal) := by
  apply within_of_level .value ⟨_, [], rfl, .inl starts⟩
  intro remaining _
  apply Parser.single_suffices
  intro c here
  unfold Parser.value
  rw [here]
  dsimp only
  unfold Parser.word
  rw [known]

theorem string_within (text : String) : WithinLevels 1 [.string text] (.literal (.string text)) := by
  apply within_of_level .value ⟨_, [], rfl, .inl rfl⟩
  intro remaining _
  apply Parser.single_suffices
  intro c here
  unfold Parser.value
  rw [here]

theorem integer_suffices (item : Parser Expr) (n : Int64) :
    Parser.Suffice 0 (Parser.value item) [.integer n] (.literal (.integer n)) (Stops .value) := by
  apply Parser.single_suffices
  intro c here
  unfold Parser.value
  rw [here]

theorem integer_within (n : Int64) : WithinLevels 1 [.integer n] (.literal (.integer n)) := by
  apply within_of_level .value ⟨_, [], rfl, .inl rfl⟩
  intro remaining _
  exact integer_suffices _ n

theorem negative_within (n : Int64) :
    WithinLevels 2 [.minus, .integer n] (.neg (.literal (.integer n))) := by
  have sign : Starts .signed .minus := .inr (.inl ⟨by decide, .inr rfl⟩)
  apply within_of_level .signed ⟨.minus, [.integer n], rfl, sign⟩
  intro remaining _
  have digits : Parser.Suffice 0 (Parser.signed (Parser.expression remaining)) [.integer n]
      (.literal (.integer n)) (Stops .signed) :=
    Parser.plain_suffice .signed ⟨_, [], rfl, .inl rfl⟩ (integer_suffices _ n)
  exact Parser.minus_suffices ⟨_, [], rfl, .inl rfl⟩ digits

theorem list_within {levels : Nat} {phrase : List Token} {trees : List Expr}
    (separated : Parser.Separated (WithinLevels levels) phrase trees) :
    WithinLevels (levels + 1) (.openBracket :: phrase ++ [.closeBracket]) (.list trees) := by
  apply within_of_level .value ⟨_, _, rfl, .inl rfl⟩
  intro remaining enough
  exact Parser.list_suffices (separated.imp fun _ _ within => within remaining enough)

/-! ## Values -/

/-- A phrase that is the text of the value and has the value on every row -/
structure Written (levels : Nat) (v : Value) (phrase : List Token) (tree : Expr) : Prop where
  spelled : Lexer.Spells v.chars phrase Lexer.Delimits
  within : WithinLevels levels phrase tree
  meant : ∀ row, tree.eval row = .ok v

theorem int64_written {n : Int64} (negatable : n ≠ Int64.minValue) :
    ∃ phrase tree, Written 2 (.int64 n) phrase tree := by
  cases sign : n.toInt with
  | ofNat k =>
      have held : int64OfInt k = some n := int64_of_int_some_iff.mpr sign
      have spelled : Lexer.Spells (Value.int64 n).chars [.integer n] Lexer.Delimits := by
        rw [Value.chars, sign]
        exact Lexer.nat_text_spelled held
      exact ⟨_, _, spelled, within_more (by decide) (integer_within n), fun _ => rfl⟩
  | negSucc k =>
      obtain ⟨lower, -⟩ := int64_in_range n
      rw [ne_eq, least_iff] at negatable
      have inside : InRange ((k + 1 : Nat) : Int) := by
        unfold InRange
        omega
      cases held : int64OfInt (k + 1 : Nat) with
      | none => exact absurd inside (int64_of_int_none_iff.mp held)
      | some m =>
          refine ⟨[.minus, .integer m], _, ?_, negative_within m, fun row => ?_⟩
          · rw [Value.chars, sign]
            exact Lexer.spells_append (Lexer.spells_mark (fun _ => True) rfl fun _ => rfl)
              (Lexer.nat_text_spelled held) fun _ _ => trivial
          · have back : int64OfInt (-m.toInt) = some n := by
              rw [int64_of_int_some_iff, int64_of_int_some_iff.mp held, sign]
              rfl
            change Value.negate (.int64 m) = _
            rw [Value.negate, back]

theorem string_spelled (text : String) :
    Lexer.Spells (Value.string text).chars [.string text] fun _ => True := by
  apply Lexer.spells_lexeme rfl
  intro rest _
  have read := Lexer.quoted_token text.toList rest
  rw [String.ofList_toList] at read
  exact read

theorem string_tokens (text : String) :
    tokens (Value.string text).text.toList =
      .ok [⟨.string text, 0⟩, ⟨.ending, (Value.string text).text.length⟩] := by
  have read := Lexer.quoted_token text.toList []
  rw [String.ofList_toList] at read
  have lexed (offset : Nat) : Lexer.tokensFrom 0 offset ((Value.string text).chars ++ []) =
      .ok [⟨.string text, offset⟩, ⟨.ending, offset + (Value.string text).chars.length⟩] :=
    Lexer.tokens_from_lexeme rfl read rfl
  rw [Value.text, String.toList_ofList, String.length_ofList, tokens,
    ← List.append_nil (Value.string text).chars, lexed, Nat.zero_add, List.append_nil]

theorem items_written {levels : Nat} {items : List Value}
    (each : ∀ item ∈ items, ∃ phrase tree, Written levels item phrase tree) :
    ∃ phrase trees, Lexer.Spells (Value.itemChars items) phrase Lexer.Delimits ∧
      Parser.Separated (WithinLevels levels) phrase trees ∧
      ∀ row, Expr.evalAll row trees = .ok items := by
  induction items with
  | nil => exact ⟨[], [], Lexer.spells_nothing _, .none, fun _ => rfl⟩
  | cons item rest induction =>
      obtain ⟨⟨phrase, tree, written⟩, others⟩ := List.forall_mem_cons.mp each
      obtain ⟨listed, trees, spelled, separated, values⟩ := induction others
      cases rest with
      | nil =>
          refine ⟨phrase, [tree], written.spelled, .last written.within, fun row => ?_⟩
          simp only [Expr.evalAll, written.meant row]
          rfl
      | cons next more =>
          have comma : Lexer.Spells (',' :: ' ' :: Value.itemChars (next :: more)) (.comma :: listed)
              Lexer.Delimits :=
            Lexer.spells_append (Lexer.spells_mark (fun _ => True) rfl fun _ => rfl)
              (Lexer.spells_blank spelled) fun _ _ => trivial
          refine ⟨_, tree :: trees, ?_, .more written.within separated, fun row => ?_⟩
          · refine Lexer.spells_append written.spelled comma ?_
            rintro _ _ _ ⟨⟩
            exact .inl rfl
          · rw [Expr.evalAll, written.meant row, values row]
            rfl

theorem word_written {text : String} {literal : Literal}
    (known : Parser.wordLiteral? text = some literal) (starts : (Token.word text).startsValue = true)
    (spelled : Lexer.Spells literal.value.chars [.word text] Lexer.Delimits) :
    ∃ phrase tree, Written 1 literal.value phrase tree :=
  ⟨_, _, spelled, word_within known starts, fun _ => rfl⟩

theorem array_written {levels : Nat} {items : List Value}
    (each : ∀ item ∈ items, ∃ phrase tree, Written levels item phrase tree) :
    ∃ phrase tree, Written (levels + 1) (.array items) phrase tree := by
  obtain ⟨phrase, trees, spelled, separated, values⟩ := items_written each
  have opening : Lexer.Spells ['['] [.openBracket] fun _ => True :=
    Lexer.spells_mark _ rfl fun _ => rfl
  have closing : Lexer.Spells (Value.itemChars items ++ [']']) (phrase ++ [.closeBracket])
      Lexer.Delimits := by
    refine Lexer.spells_append spelled (Lexer.spells_mark _ rfl fun _ => rfl) ?_
    rintro _ _ _ ⟨⟩
    exact .inr rfl
  refine ⟨.openBracket :: phrase ++ [.closeBracket], .list trees, ?_, list_within separated, ?_⟩
  · have whole := Lexer.spells_append opening closing fun _ _ => trivial
    exact whole
  · intro row
    rw [Expr.eval, values row]
    rfl

theorem written_more {levels more : Nat} {v : Value} (fewer : levels ≤ more)
    (written : ∃ phrase tree, Written levels v phrase tree) :
    ∃ phrase tree, Written more v phrase tree := by
  obtain ⟨phrase, tree, written⟩ := written
  exact ⟨phrase, tree, written.spelled, within_more fewer written.within, written.meant⟩

/-- Every array takes a level, and so do the whole text and the sign of a number. -/
theorem writable_written {arrays : Nat} {v : Value} (writable : Writable arrays v) :
    ∃ phrase tree, Written (arrays + 2) v phrase tree := by
  induction writable with
  | null arrays =>
      have spelled : Lexer.Spells Value.null.chars [.word "null"] Lexer.Delimits :=
        Lexer.word_spelled rfl rfl rfl
      exact written_more (by omega) (@word_written _ .null rfl (by decide) spelled)
  | bool arrays b =>
      cases b with
      | true =>
          have spelled : Lexer.Spells (Value.bool true).chars [.word "true"] Lexer.Delimits :=
            Lexer.word_spelled rfl rfl rfl
          exact written_more (by omega) (@word_written _ (.bool true) rfl (by decide) spelled)
      | false =>
          have spelled : Lexer.Spells (Value.bool false).chars [.word "false"] Lexer.Delimits :=
            Lexer.word_spelled rfl rfl rfl
          exact written_more (by omega) (@word_written _ (.bool false) rfl (by decide) spelled)
  | int64 arrays negatable => exact written_more (by omega) (int64_written negatable)
  | string arrays text =>
      have spelled : Lexer.Spells (Value.string text).chars [.string text] Lexer.Delimits :=
        fun offset rest later _ => string_spelled text offset rest later trivial
      exact ⟨_, _, spelled, within_more (by omega) (string_within text), fun _ => rfl⟩
  | array each induction => exact array_written induction

/-- The text of a value that can be written is parsed, and the condition has this value on every row. The
text of a string is a single token, with the string that it was made from. -/
theorem written_values_are_conditions :
    (∀ v, Writable 62 v → ∃ tree, parse v.text = .ok tree ∧ ∀ row, tree.eval row = .ok v) ∧
    ∀ text : String, tokens (Value.string text).text.toList =
      .ok [⟨.string text, 0⟩, ⟨.ending, (Value.string text).text.length⟩] := by
  constructor
  · intro v writable
    obtain ⟨phrase, tree, written⟩ := writable_written writable
    obtain ⟨found, lexed, placed⟩ := Lexer.tokens_of_spelled written.spelled Lexer.delimits_nothing
    refine ⟨tree, ?_, written.meant⟩
    unfold parse
    rw [Value.text, String.toList_ofList, lexed]
    exact Parser.parse_tokens_within placed (written.within maxDepth (Nat.le_refl _))
  · intro text
    exact string_tokens text

def answers : Value :=
  .array [.string "it's a \\ and\na line", .int64 (-5), .array [.null, .bool true, .array []]]

theorem answers_are_condition :
    Writable 62 answers ∧
      (∃ tree, parse answers.text = .ok tree ∧ ∀ row, tree.eval row = .ok answers) ∧
      tokens (Value.string "it's").text.toList = .ok [⟨.string "it's", 0⟩, ⟨.ending, 7⟩] := by
  have inner : Writable 61 (.array [.null, .bool true, .array []]) := by
    refine .array fun item member => ?_
    simp only [List.mem_cons, List.not_mem_nil, or_false] at member
    rcases member with rfl | rfl | rfl
    · exact .null 60
    · exact .bool 60 true
    · exact .array nofun
  have writable : Writable 62 answers := by
    refine .array fun item member => ?_
    simp only [List.mem_cons, List.not_mem_nil, or_false] at member
    rcases member with rfl | rfl | rfl
    · exact .string 61 _
    · exact .int64 61 (by decide)
    · exact inner
  exact ⟨writable, written_values_are_conditions.1 answers writable,
    written_values_are_conditions.2 "it's"⟩

end QueryCheck.Condition

import QueryCheck.Proofs.Condition.NumberLexemes
import QueryCheck.Proofs.Number.Digits

/-!
# The lexemes of tokens

A token depends on what stands behind its characters by the next character at most. It is the same in
front of every text that begins with that character or with a blank, and at the end of a text.
-/

namespace QueryCheck.Condition.Lexer

set_option autoImplicit false

/-! ## Blanks -/

def blankCodes : List Nat :=
  [9, 10, 11, 12, 13, 0x20, 0x85, 0xA0, 0x1680] ++ List.range' 0x2000 11 ++
    [0x2028, 0x2029, 0x202F, 0x205F, 0x3000]

theorem blank_listed {c : Char} (blank : Text.isWhitespace c = true) : c.toNat ∈ blankCodes := by
  simp only [Text.isWhitespace, Bool.or_eq_true, decide_eq_true_eq, beq_iff_eq] at blank
  simp only [blankCodes, List.mem_append, List.mem_range'_1, List.mem_cons, List.not_mem_nil, or_false]
  omega

theorem holds_of_code {codes : List Nat} (p : Char → Prop) (each : ∀ code ∈ codes, p (Char.ofNat code))
    {c : Char} (listed : c.toNat ∈ codes) : p c := by
  rw [← Char.ofNat_toNat c]
  exact each c.toNat listed

theorem blank_no_word_part {c : Char} (blank : Text.isWhitespace c = true) : isWordPart c = false := by
  have free : ∀ code ∈ blankCodes, isWordPart (Char.ofNat code) = false := by decide +kernel
  exact holds_of_code (isWordPart · = false) free (blank_listed blank)

theorem word_start_is_part {c : Char} (start : isWordStart c = true) : isWordPart c = true := by
  unfold isWordStart at start
  unfold isWordPart Text.isAlphanumeric
  rcases Bool.or_eq_true_iff.mp start with letter | underscore
  · rw [letter]
    rfl
  · rw [underscore, Bool.or_true]

theorem blank_no_word_start {c : Char} (blank : Text.isWhitespace c = true) : isWordStart c = false := by
  by_contra start
  have part := word_start_is_part (Bool.not_eq_false _ ▸ start)
  rw [blank_no_word_part blank] at part
  cases part

theorem blank_no_digit {c : Char} (blank : Text.isWhitespace c = true) : c.isDigit = false := by
  by_contra digit
  rw [digit_not_blank (Bool.not_eq_false _ ▸ digit)] at blank
  cases blank

theorem digit_no_word_start {c : Char} (digit : c.isDigit = true) : isWordStart c = false := by
  have free : ∀ code ∈ List.range' 48 10, isWordStart (Char.ofNat code) = false := by decide
  obtain ⟨lower, upper⟩ := digit_code digit
  exact holds_of_code (isWordStart · = false) free (List.mem_range'_1.mpr ⟨lower, by omega⟩)

theorem blank_ne {c other : Char} (blank : Text.isWhitespace c = true)
    (visible : Text.isWhitespace other = false) : c ≠ other := by
  rintro rfl
  rw [blank] at visible
  cases visible

/-! ## What stands behind a lexeme -/

/-- The text ends at once, begins with a blank, or begins as the other text does. -/
def StopsLike (behind other : List Char) : Prop :=
  ∀ next, other.head? = some next → Text.isWhitespace next = true ∨ behind.head? = some next

theorem stops_like_nothing (behind : List Char) : StopsLike behind [] :=
  nofun

theorem stops_like_itself (behind : List Char) : StopsLike behind behind :=
  fun _ => .inr

theorem stops_like_blank (behind rest : List Char) {c : Char} (blank : Text.isWhitespace c = true) :
    StopsLike behind (c :: rest) := by
  intro next head
  cases head
  exact .inl blank

theorem stops_like_blanks (behind : List Char) {blanks : List Char}
    (blank : ∀ c ∈ blanks, Text.isWhitespace c = true) : StopsLike behind blanks :=
  fun next head => .inl (blank next (List.mem_of_head? head))

/-- A text may be followed by one that begins with a blank. -/
theorem stops_like_append (text : List Char) {more : List Char} (stops : StopsLike [] more) :
    StopsLike text (text ++ more) := by
  cases text with
  | nil => exact stops
  | cons c rest => exact fun _ => .inr

/-- A property of the next character that blanks have as well holds in front of the other text. -/
theorem next_of_stops_like {behind other : List Char} {p : Char → Prop} (stops : StopsLike behind other)
    (blank : ∀ next, Text.isWhitespace next = true → p next)
    (holds : ∀ next, behind.head? = some next → p next) : ∀ next, other.head? = some next → p next := by
  intro next head
  rcases stops next head with blankNext | same
  · exact blank next blankNext
  · exact holds next same

/-- The characters are read as the token in front of every text that stops like the one behind them. -/
def ReadAs (c : Char) (others behind : List Char) (token : Token) : Prop :=
  ∀ other, StopsLike behind other → tokenAt c (others ++ other) = .ok (token, others.length + 1)

/-! ## How a token is read -/

/-- A token that is read at a character, and its width. -/
inductive Reading (c : Char) (rest : List Char) : Token → Nat → Prop where
  | quoted {content : List Char} {width : Nat} (quote : c = '"' ∨ c = '\x27')
      (body : stringBody c rest = .ok (content, width)) :
      Reading c rest (.string (String.ofList content)) (width + 1)
  | number {token : Token} {width : Nat} (starts : startsNumber (c :: rest) = true)
      (read : Lexer.number (c :: rest) = .ok (token, width)) : Reading c rest token width
  | operator {token : Token} {width : Nat} (operates : Lexer.operator (c :: rest) = some (token, width)) :
      Reading c rest token width
  | word (start : isWordStart c = true) :
      Reading c rest (.word (String.ofList ((c :: rest).takeWhile isWordPart)))
        ((c :: rest).takeWhile isWordPart).length

theorem number_start {c : Char} {rest : List Char} (starts : startsNumber (c :: rest) = true) :
    c.isDigit = true ∨ c = '.' := by
  unfold startsNumber at starts
  split at starts
  · rename_i same
    exact .inr (List.cons.inj same).1
  · rename_i same
    rw [← (List.cons.inj same).1] at starts
    exact .inl starts
  · cases starts

theorem operator_start {c : Char} {rest : List Char} {found : Token × Nat}
    (operates : operator (c :: rest) = some found) :
    ¬(c = '"' ∨ c = '\x27') ∧ c.isDigit = false ∧ c ≠ '.' := by
  unfold operator at operates
  split at operates
  case h_18 => cases operates
  all_goals
    rename_i same
    cases same
    decide

theorem word_start {c : Char} (start : isWordStart c = true) :
    ¬(c = '"' ∨ c = '\x27') ∧ c.isDigit = false ∧ c ≠ '.' ∧ c ≠ '=' := by
  refine ⟨?_, ?_, ?_, ?_⟩
  · rintro (rfl | rfl) <;> revert start <;> decide
  · by_contra digit
    exact absurd start (by rw [digit_no_word_start (Bool.not_eq_false _ ▸ digit)]; decide)
  · rintro rfl
    revert start
    decide
  · rintro rfl
    revert start
    decide

theorem operator_none_of_word_start {c : Char} (start : isWordStart c = true) (rest : List Char) :
    operator (c :: rest) = none := by
  unfold operator
  split
  case h_18 => rfl
  all_goals
    rename_i same
    cases same
    exact absurd start (by decide)

theorem token_at_reading {c : Char} {rest : List Char} {token : Token} {width : Nat} :
    tokenAt c rest = .ok (token, width) ↔ Reading c rest token width := by
  constructor
  · intro read
    unfold tokenAt at read
    dsimp only at read
    split at read
    · rename_i quote
      split at read
      · rename_i body
        cases read
        exact .quoted quote body
      · cases read
    · split at read
      · rename_i starts
        exact .number starts read
      · split at read
        · rename_i operates
          cases read
          exact .operator operates
        · split at read
          · cases read
          · split at read
            · rename_i start
              cases read
              exact .word start
            · cases read
  · intro reading
    unfold tokenAt
    cases reading with
    | quoted quote body => rw [if_pos quote, body]
    | number starts read =>
        have quote : ¬(c = '"' ∨ c = '\x27') := by
          rintro (rfl | rfl) <;> rcases number_start starts with impossible | impossible <;> cases impossible
        dsimp only
        rw [if_neg quote, if_pos starts, read]
    | operator operates =>
        obtain ⟨quote, digit, point⟩ := operator_start operates
        dsimp only
        rw [if_neg quote, starts_no_number digit point, operates]
        rfl
    | word start =>
        obtain ⟨quote, digit, point, equals⟩ := word_start start
        dsimp only
        rw [if_neg quote, starts_no_number digit point, operator_none_of_word_start start]
        dsimp only
        rw [if_neg Bool.false_ne_true, if_neg equals, if_pos start]

/-! ## Quoted texts -/

theorem string_body_plain {quote c : Char} (plain : c ≠ '\\') (rest : List Char) :
    stringBody quote (c :: rest) =
      if c = quote then .ok ([], 1)
      else
        match stringBody quote rest with
        | .ok (content, width) => .ok (c :: content, width + 1)
        | .error fault => .error fault :=
  stringBody.eq_4 quote c rest (fun same _ => plain same) (fun _ _ same _ => plain same)

/-- A quoted text ends at its quote, whatever follows. -/
theorem string_body_again {quote : Char} {text content : List Char} {width : Nat}
    (read : stringBody quote text = .ok (content, width)) :
    ∃ taken behind, text = taken ++ behind ∧ width = taken.length ∧
      ∀ other, stringBody quote (taken ++ other) = .ok (content, width) := by
  have unescaped : ∀ {c : Char} {rest : List Char}, (c = '\\' → rest = [] → False) →
      (∀ d more, c = '\\' → rest = d :: more → False) → c ≠ '\\' := by
    rintro c rest alone pair rfl
    cases rest with
    | nil => exact alone rfl rfl
    | cons d more => exact pair d more rfl rfl
  fun_induction stringBody quote text generalizing content width with
  | case1 => cases read
  | case2 => cases read
  | case3 c rest inner innerWidth succeeds induction =>
      cases read
      obtain ⟨taken, behind, rfl, rfl, again⟩ := induction succeeds
      refine ⟨'\\' :: c :: taken, behind, rfl, rfl, fun other => ?_⟩
      rw [List.cons_append, List.cons_append, stringBody, again]
  | case4 => cases read
  | case5 rest alone pair =>
      cases read
      refine ⟨[quote], rest, rfl, rfl, fun other => ?_⟩
      rw [List.singleton_append, string_body_plain (unescaped alone pair), if_pos rfl]
  | case6 c rest alone pair noQuote inner innerWidth succeeds induction =>
      cases read
      obtain ⟨taken, behind, rfl, rfl, again⟩ := induction succeeds
      refine ⟨c :: taken, behind, rfl, rfl, fun other => ?_⟩
      rw [List.cons_append, string_body_plain (unescaped alone pair), if_neg noQuote, again]
  | case7 => cases read

/-! ## Numbers -/

theorem number_again {c : Char} {rest : List Char} {token : Token} {width : Nat}
    (starts : startsNumber (c :: rest) = true) (read : number (c :: rest) = .ok (token, width)) :
    ∃ others behind, rest = others ++ behind ∧ width = others.length + 1 ∧
      ∀ other, StopsLike behind other →
        startsNumber (c :: (others ++ other)) = true ∧
          number (c :: (others ++ other)) = .ok (token, others.length + 1) := by
  obtain ⟨whole, fraction, digits, exponent, behind, split, parts, ends, made, counted⟩ :=
    number_parts starts read
  have lengths : width = (whole ++ (fraction ++ exponent)).length := by
    rw [counted, List.length_append, List.length_append, Nat.add_assoc]
  obtain ⟨first, others, lexeme⟩ := List.exists_cons_of_ne_nil (number_ne_nil parts)
  have joined : ∀ other, whole ++ (fraction ++ (exponent ++ other)) = first :: (others ++ other) := by
    intro other
    rw [← List.cons_append, ← lexeme, List.append_assoc, List.append_assoc]
  rw [joined] at split
  obtain ⟨rfl, rfl⟩ := List.cons.inj split
  rw [lexeme] at lengths
  refine ⟨others, behind, rfl, lengths, fun other stops => ?_⟩
  have endsAgain : EndsNumber fraction exponent other := by
    refine next_of_stops_like stops (fun next blank => ?_) ends
    exact ⟨blank_no_digit blank, blank_no_word_start blank, fun _ _ => blank_ne blank (by decide)⟩
  rw [← joined]
  refine ⟨starts_number_of_parts parts _, ?_⟩
  rw [number_of_parts parts endsAgain, made, ← counted, lengths]
  rfl

/-! ## Operators -/

theorem operator_less_alone {rest : List Char}
    (alone : ∀ next, rest.head? = some next → next ≠ '=' ∧ next ≠ '>') :
    operator ('<' :: rest) = some (.less, 1) := by
  cases rest with
  | nil => rfl
  | cons next more =>
      obtain ⟨noEquals, noGreater⟩ := alone next rfl
      simp [operator, noEquals, noGreater]

theorem operator_greater_alone {rest : List Char}
    (alone : ∀ next, rest.head? = some next → next ≠ '=') :
    operator ('>' :: rest) = some (.greater, 1) := by
  cases rest with
  | nil => rfl
  | cons next more => simp [operator, alone next rfl]

/-- Only a mark that may begin a longer operator depends on what is behind it. -/
theorem operator_again {c : Char} {rest : List Char} {token : Token} {width : Nat}
    (read : operator (c :: rest) = some (token, width)) :
    ∃ others behind, rest = others ++ behind ∧ width = others.length + 1 ∧
      ∀ other, StopsLike behind other →
        operator (c :: (others ++ other)) = some (token, others.length + 1) := by
  unfold operator at read
  split at read
  case h_5 behind noEquals noGreater same =>
    cases read
    cases same
    refine ⟨[], rest, rfl, rfl, fun other stops => operator_less_alone ?_⟩
    refine next_of_stops_like stops ?_ ?_
    · exact fun next blank => ⟨blank_ne blank (by decide), blank_ne blank (by decide)⟩
    · intro next head
      obtain ⟨more, rfl⟩ := List.head?_eq_some_iff.mp head
      exact ⟨fun same => noEquals more (by rw [same]), fun same => noGreater more (by rw [same])⟩
  case h_7 behind noEquals same =>
    cases read
    cases same
    refine ⟨[], rest, rfl, rfl, fun other stops => operator_greater_alone ?_⟩
    refine next_of_stops_like stops (fun next blank => blank_ne blank (by decide)) ?_
    rintro _ head rfl
    obtain ⟨more, split⟩ := List.head?_eq_some_iff.mp head
    exact noEquals more split
  case h_18 => cases read
  all_goals
    rename_i behind same
    cases read
    cases same
    first
    | exact ⟨[], rest, rfl, rfl, fun _ _ => rfl⟩
    | exact ⟨[_], behind, rfl, rfl, fun _ _ => rfl⟩

/-! ## Tokens -/

/-- What a token takes, it takes again wherever the text behind it stops alike. -/
theorem token_at_again {c : Char} {rest : List Char} {token : Token} {width : Nat}
    (read : tokenAt c rest = .ok (token, width)) :
    ∃ others behind, rest = others ++ behind ∧ width = others.length + 1 ∧
      ReadAs c others behind token := by
  cases token_at_reading.mp read with
  | quoted quote body =>
      obtain ⟨others, behind, split, rfl, again⟩ := string_body_again body
      exact ⟨others, behind, split, rfl,
        fun other _ => token_at_reading.mpr (.quoted quote (again other))⟩
  | number starts read =>
      obtain ⟨others, behind, split, counted, again⟩ := number_again starts read
      exact ⟨others, behind, split, counted,
        fun other stops => token_at_reading.mpr (.number (again other stops).1 (again other stops).2)⟩
  | operator operates =>
      obtain ⟨others, behind, split, counted, again⟩ := operator_again operates
      exact ⟨others, behind, split, counted,
        fun other stops => token_at_reading.mpr (.operator (again other stops))⟩
  | word start =>
      obtain ⟨behind, split, ends⟩ := run_taken isWordPart rest
      have all : ∀ part ∈ c :: rest.takeWhile isWordPart, isWordPart part = true :=
        List.forall_mem_cons.mpr ⟨word_start_is_part start, fun part => List.mem_takeWhile_imp⟩
      rw [List.takeWhile_cons_of_pos (word_start_is_part start)]
      refine ⟨_, behind, split, rfl, fun other stops => ?_⟩
      have word := @Reading.word c (rest.takeWhile isWordPart ++ other) start
      rw [← List.cons_append,
        run_again all (next_of_stops_like stops (fun next => blank_no_word_part) ends)] at word
      exact token_at_reading.mpr word

theorem token_at_not_ending (c : Char) (rest : List Char) (width : Nat) :
    tokenAt c rest ≠ .ok (.ending, width) := by
  intro read
  cases token_at_reading.mp read with
  | number starts read =>
      obtain ⟨whole, fraction, digits, exponent, behind, -, -, -, made, -⟩ := number_parts starts read
      unfold numberToken at made
      split at made
      · split at made <;> cases made
      · cases made
  | operator operates =>
      unfold operator at operates
      split at operates <;> cases operates

/-! ## Lexemes at the beginning of a text -/

theorem tokens_from_blank {c : Char} (rest : List Char) (offset : Nat)
    (blank : Text.isWhitespace c = true) :
    tokensFrom 0 offset (c :: rest) = tokensFrom 0 (offset + 1) rest := by
  conv => lhs; unfold tokensFrom
  exact if_pos blank

theorem tokens_from_blanks {blanks : List Char} (blank : ∀ c ∈ blanks, Text.isWhitespace c = true)
    (rest : List Char) (offset : Nat) :
    tokensFrom 0 offset (blanks ++ rest) = tokensFrom 0 (offset + blanks.length) rest := by
  induction blanks generalizing offset with
  | nil => rfl
  | cons c blanks induction =>
      obtain ⟨first, others⟩ := List.forall_mem_cons.mp blank
      rw [List.cons_append, tokens_from_blank _ _ first, induction others, List.length_cons,
        Nat.add_right_comm, Nat.add_assoc]

/-- The characters of a token that has been read are passed over. -/
theorem tokens_from_skip (lexeme rest : List Char) (offset : Nat) :
    tokensFrom lexeme.length offset (lexeme ++ rest) = tokensFrom 0 (offset + lexeme.length) rest := by
  induction lexeme generalizing offset with
  | nil => rfl
  | cons c lexeme induction =>
      rw [List.length_cons, List.cons_append, tokensFrom, induction, Nat.add_right_comm, Nat.add_assoc]

theorem tokens_from_visible {c : Char} {rest : List Char} {offset width : Nat} {token : Token}
    (visible : Text.isWhitespace c = false) (read : tokenAt c rest = .ok (token, width)) :
    tokensFrom 0 offset (c :: rest) =
      (tokensFrom (width - 1) (offset + 1) rest).map (⟨token, offset⟩ :: ·) := by
  conv => lhs; unfold tokensFrom
  dsimp only
  rw [visible, read]
  dsimp only
  rw [if_neg Bool.false_ne_true]
  cases tokensFrom (width - 1) (offset + 1) rest <;> rfl

theorem tokens_from_token {c : Char} {rest : List Char} {offset width : Nat} {token : Token}
    {later : List Placed} (visible : Text.isWhitespace c = false)
    (read : tokenAt c rest = .ok (token, width))
    (lexed : tokensFrom (width - 1) (offset + 1) rest = .ok later) :
    tokensFrom 0 offset (c :: rest) = .ok (⟨token, offset⟩ :: later) := by
  rw [tokens_from_visible visible read, lexed]
  rfl

theorem tokens_behind_lexeme {c : Char} {others rest : List Char} {offset : Nat} {token : Token}
    (visible : Text.isWhitespace c = false)
    (read : tokenAt c (others ++ rest) = .ok (token, others.length + 1)) :
    tokensFrom 0 offset (c :: others ++ rest) =
      (tokensFrom 0 (offset + (c :: others).length) rest).map (⟨token, offset⟩ :: ·) := by
  rw [List.cons_append, tokens_from_visible visible read, Nat.add_sub_cancel, tokens_from_skip,
    List.length_cons, Nat.add_right_comm, Nat.add_assoc]

theorem tokens_from_lexeme {c : Char} {others rest : List Char} {offset : Nat} {token : Token}
    {later : List Placed} (visible : Text.isWhitespace c = false)
    (read : tokenAt c (others ++ rest) = .ok (token, others.length + 1))
    (lexed : tokensFrom 0 (offset + (c :: others).length) rest = .ok later) :
    tokensFrom 0 offset (c :: others ++ rest) = .ok (⟨token, offset⟩ :: later) := by
  rw [tokens_behind_lexeme visible read, lexed]
  rfl

/-- Every token but the last was read at a character of the text. -/
theorem tokens_from_read (text : List Char) (skip offset : Nat) (found : List Placed)
    (lexed : tokensFrom skip offset text = .ok found) :
    ∃ body, found.map Placed.token = body ++ [.ending] ∧
      ∀ token ∈ body, ∃ c rest width, tokenAt c rest = .ok (token, width) := by
  induction text generalizing skip offset found with
  | nil =>
      cases lexed
      exact ⟨[], rfl, by simp⟩
  | cons c rest induction =>
      unfold tokensFrom at lexed
      split at lexed
      · exact induction _ _ _ lexed
      · split at lexed
        · exact induction _ _ _ lexed
        · split at lexed
          · cases lexed
          · rename_i token width read
            split at lexed
            · rename_i later remaining
              cases lexed
              obtain ⟨body, split, others⟩ := induction _ _ _ remaining
              refine ⟨token :: body, ?_, ?_⟩
              · rw [List.map_cons, split]
                rfl
              · rw [List.forall_mem_cons]
                exact ⟨⟨c, rest, width, read⟩, others⟩
            · cases lexed

end QueryCheck.Condition.Lexer

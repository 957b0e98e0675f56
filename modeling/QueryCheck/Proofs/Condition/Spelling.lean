import QueryCheck.Proofs.Condition.Lexemes
import QueryCheck.Value.Text

/-!
# Texts and the tokens that they spell

A text spells tokens when these are read off it wherever it stands, as long as what is behind it does not
go on with the last of them. Texts that stand one behind the other spell what each of them does.
-/

namespace QueryCheck.Condition.Lexer

set_option autoImplicit false

/-! ## Spelled tokens -/

/-- The tokens are read off the characters, where what is behind these stops the last one. -/
def Spells (chars : List Char) (phrase : List Token) (stops : List Char → Prop) : Prop :=
  ∀ offset rest later, stops rest → tokensFrom 0 (offset + chars.length) rest = .ok later →
    ∃ found, tokensFrom 0 offset (chars ++ rest) = .ok (found ++ later) ∧ found.map Placed.token = phrase

theorem spells_nothing (stops : List Char → Prop) : Spells [] [] stops :=
  fun _ _ _ _ lexed => ⟨[], lexed, rfl⟩

theorem spells_lexeme {c : Char} {others : List Char} {token : Token} {stops : List Char → Prop}
    (visible : Text.isWhitespace c = false)
    (read : ∀ rest, stops rest → tokenAt c (others ++ rest) = .ok (token, others.length + 1)) :
    Spells (c :: others) [token] stops :=
  fun offset rest _ stopped lexed =>
    ⟨[⟨token, offset⟩], tokens_from_lexeme visible (read rest stopped) lexed, rfl⟩

theorem spells_append {first second : List Char} {phrase others : List Token}
    {between stops : List Char → Prop} (spelled : Spells first phrase between)
    (behind : Spells second others stops) (stopped : ∀ rest, stops rest → between (second ++ rest)) :
    Spells (first ++ second) (phrase ++ others) stops := by
  intro offset rest later ends lexed
  rw [List.length_append, ← Nat.add_assoc] at lexed
  obtain ⟨latter, lexedLatter, same⟩ := behind _ rest later ends lexed
  obtain ⟨former, lexedFormer, sameFormer⟩ := spelled offset _ _ (stopped rest ends) lexedLatter
  refine ⟨former ++ latter, ?_, by rw [List.map_append, sameFormer, same]⟩
  rw [List.append_assoc, lexedFormer, List.append_assoc]

theorem spells_blank {chars : List Char} {phrase : List Token} {stops : List Char → Prop}
    (spelled : Spells chars phrase stops) : Spells (' ' :: chars) phrase stops := by
  intro offset rest later ends lexed
  rw [List.cons_append, tokens_from_blank _ _ rfl]
  refine spelled (offset + 1) rest later ends ?_
  rw [Nat.add_right_comm]
  exact lexed

theorem tokens_of_spelled {chars : List Char} {phrase : List Token} {stops : List Char → Prop}
    (spelled : Spells chars phrase stops) (free : stops []) :
    ∃ found, tokens chars = .ok found ∧ found.map Placed.token = phrase ++ [.ending] := by
  obtain ⟨found, lexed, same⟩ := spelled 0 [] _ free rfl
  rw [List.append_nil] at lexed
  exact ⟨_, lexed, by rw [List.map_append, same]; rfl⟩

/-! ## Marks and words -/

/-- Nothing, or the end of an item -/
def Delimits (rest : List Char) : Prop :=
  ∀ c, rest.head? = some c → c = ',' ∨ c = ']'

theorem delimits_nothing : Delimits [] :=
  nofun

theorem spells_mark {c : Char} {token : Token} (stops : List Char → Prop)
    (visible : Text.isWhitespace c = false) (read : ∀ rest, tokenAt c rest = .ok (token, 1)) :
    Spells [c] [token] stops :=
  spells_lexeme visible fun rest _ => read rest

theorem delimiter_no_word_part {rest : List Char} (ends : Delimits rest) :
    ∀ next, rest.head? = some next → isWordPart next = false := by
  intro next head
  rcases ends next head with rfl | rfl
  · decide
  · decide

theorem word_spelled {c : Char} {others : List Char} (start : isWordStart c = true)
    (visible : Text.isWhitespace c = false) (parts : (c :: others).all isWordPart = true) :
    Spells (c :: others) [.word (String.ofList (c :: others))] Delimits := by
  apply spells_lexeme visible
  intro rest ends
  have word := @Reading.word c (others ++ rest) start
  rw [← List.cons_append, run_again (List.all_eq_true.mp parts) (delimiter_no_word_part ends)] at word
  exact token_at_reading.mpr word

/-! ## Whole numbers -/

theorem read_int64_nat_text {n : Nat} {value : Int64} (held : int64OfInt n = some value) :
    readInt64 (natText n) = some value := by
  have read : readInt (natText n) = some (n : Int) := by
    unfold readInt
    split
    · rename_i same
      exact absurd (nat_text_digits n '-' (by rw [same]; exact List.mem_cons_self)) (by decide)
    · rename_i same
      exact absurd (nat_text_digits n '+' (by rw [same]; exact List.mem_cons_self)) (by decide)
    · exact congrArg (Option.map Int.ofNat) (read_nat_text n)
  rw [readInt64, read, Option.bind_some]
  exact held

theorem number_of_digits {digits rest : List Char} (nonempty : digits ≠ [])
    (all : ∀ c ∈ digits, c.isDigit = true) (ends : Delimits rest) :
    number (digits ++ rest) = (numberToken digits [] []).map (·, digits.length) := by
  have parts : NumberParts digits [] [] [] :=
    ⟨all, .inl ⟨rfl, rfl⟩, List.forall_mem_nil _, .none, .inl nonempty⟩
  refine number_of_parts parts fun next head => ?_
  rcases ends next head with rfl | rfl
  · exact ⟨rfl, rfl, nofun⟩
  · exact ⟨rfl, rfl, nofun⟩

theorem nat_text_spelled {n : Nat} {value : Int64} (held : int64OfInt n = some value) :
    Spells (natText n) [.integer value] Delimits := by
  have nonempty : natText n ≠ [] := Nat.toDigits_ne_nil
  obtain ⟨c, others, split⟩ := List.exists_cons_of_ne_nil nonempty
  have all := nat_text_digits n
  have digit : c.isDigit = true := all c (by rw [split]; exact List.mem_cons_self)
  have read := read_int64_nat_text held
  rw [split] at all read ⊢
  have token : numberToken (c :: others) [] [] = .ok (.integer value) := by
    unfold numberToken
    rw [if_pos (by rfl), read]
  apply spells_lexeme (digit_not_blank digit)
  intro rest ends
  have number := number_of_digits (List.cons_ne_nil _ _) all ends
  rw [token] at number
  exact token_at_reading.mpr (.number (starts_number digit _) number)

/-! ## Quoted texts -/

/-- A text is read back from its quoted form: a backslash stands before every quote and every backslash, and
nowhere else. -/
theorem string_body_escaped (text rest : List Char) :
    stringBody '\x27' (Value.escapedText text ++ '\x27' :: rest) =
      .ok (text, (Value.escapedText text).length + 1) := by
  induction text with
  | nil => rfl
  | cons c text induction =>
      have split : Value.escapedText (c :: text) =
          (if c = '\\' ∨ c = '\x27' then ['\\', c] else [c]) ++ Value.escapedText text := rfl
      rw [split]
      by_cases special : c = '\\' ∨ c = '\x27'
      · have kept : unescape c = [c] := by rcases special with rfl | rfl <;> rfl
        rw [if_pos special]
        change stringBody '\x27' ('\\' :: c :: (Value.escapedText text ++ '\x27' :: rest)) = _
        rw [stringBody, induction]
        dsimp only
        rw [kept]
        rfl
      · rw [not_or] at special
        rw [if_neg (not_or.mpr special)]
        change stringBody '\x27' (c :: (Value.escapedText text ++ '\x27' :: rest)) = _
        rw [stringBody, if_neg special.2, induction]
        · rfl
        · exact fun same _ => special.1 same
        · exact fun _ _ same _ => special.1 same

theorem quoted_token (text rest : List Char) :
    tokenAt '\x27' (Value.escapedText text ++ ['\x27'] ++ rest) =
      .ok (.string (String.ofList text), (Value.escapedText text ++ ['\x27']).length + 1) := by
  unfold tokenAt
  rw [if_pos (.inr rfl), List.append_assoc, List.singleton_append, string_body_escaped]
  rw [List.length_append]
  rfl

end QueryCheck.Condition.Lexer

import QueryCheck.Proofs.Condition.Lexemes

/-!
# Texts divided by their tokens

Behind its leading blanks, a text is made of the lexemes of its tokens, each with the blanks that follow
it. So every segment has its token when it is read alone, and a blank between two texts keeps their tokens
apart.
-/

namespace QueryCheck.Condition

set_option autoImplicit false

/-- The token so many characters further on. -/
def Placed.moved (distance : Nat) (one : Placed) : Placed :=
  { one with offset := one.offset + distance }

def ParseError.moved (distance : Nat) (e : ParseError) : ParseError :=
  { e with offset := e.offset + distance }

namespace Lexer

theorem tokens_from_moved (distance skip offset : Nat) (text : List Char) :
    tokensFrom skip (offset + distance) text =
      ((tokensFrom skip offset text).map (List.map (Placed.moved distance))).mapError
        (ParseError.moved distance) := by
  induction text generalizing skip offset with
  | nil => rfl
  | cons c rest induction =>
      unfold tokensFrom
      rw [Nat.add_right_comm]
      split
      · exact induction _ _
      · split
        · exact induction _ _
        · split
          · rfl
          · rw [induction]
            cases tokensFrom _ (offset + 1) rest <;> rfl

/-- A text that lexes and begins with no blank begins with the lexeme of its first token. -/
theorem tokens_from_first {c : Char} {rest : List Char} {offset : Nat} {found : List Placed}
    (visible : Text.isWhitespace c = false) (lexed : tokensFrom 0 offset (c :: rest) = .ok found) :
    ∃ others behind token later, rest = others ++ behind ∧ ReadAs c others behind token ∧
      tokensFrom 0 (offset + (c :: others).length) behind = .ok later ∧
      found = ⟨token, offset⟩ :: later := by
  cases read : tokenAt c rest with
  | error fault =>
      unfold tokensFrom at lexed
      dsimp only at lexed
      rw [visible, read] at lexed
      cases lexed
  | ok first =>
      obtain ⟨others, behind, rfl, -, again⟩ := token_at_again read
      rw [← List.cons_append,
        tokens_behind_lexeme visible (again behind (stops_like_itself behind))] at lexed
      obtain ⟨later, lexedBehind, same⟩ := except_map_ok.mp lexed
      exact ⟨others, behind, first.1, later, rfl, again, lexedBehind, same.symm⟩

/-- Behind the characters of each token there are blanks up to the next one or to the ending. -/
inductive Segments : Nat → List Char → List Placed → Prop where
  | ending (offset : Nat) : Segments offset [] [⟨.ending, offset⟩]
  | token {offset : Nat} {c : Char} {others blanks behind : List Char} {token : Token}
      {later : List Placed} (visible : Text.isWhitespace c = false)
      (read : ReadAs c others (blanks ++ behind) token)
      (blank : ∀ space ∈ blanks, Text.isWhitespace space = true)
      (segments : Segments (offset + (c :: others).length + blanks.length) behind later) :
      Segments offset (c :: others ++ (blanks ++ behind)) (⟨token, offset⟩ :: later)

/-- Every text that lexes is divided by its tokens, behind the blanks at its beginning. -/
theorem tokens_from_segments (text : List Char) (offset : Nat) (found : List Placed)
    (lexed : tokensFrom 0 offset text = .ok found) :
    ∃ blanks behind, text = blanks ++ behind ∧ (∀ space ∈ blanks, Text.isWhitespace space = true) ∧
      Segments (offset + blanks.length) behind found := by
  match text with
  | [] =>
      cases lexed
      exact ⟨[], [], rfl, List.forall_mem_nil _, .ending _⟩
  | c :: rest =>
      by_cases blank : Text.isWhitespace c = true
      · rw [tokens_from_blank rest offset blank] at lexed
        obtain ⟨blanks, behind, rfl, all, segments⟩ := tokens_from_segments rest (offset + 1) found lexed
        refine ⟨c :: blanks, behind, rfl, List.forall_mem_cons.mpr ⟨blank, all⟩, ?_⟩
        rw [List.length_cons, Nat.add_comm blanks.length, ← Nat.add_assoc]
        exact segments
      · have visible := Bool.eq_false_iff.mpr blank
        obtain ⟨others, behind, token, later, split, again, lexedBehind, rfl⟩ :=
          tokens_from_first visible lexed
        have shorter : behind.length < rest.length + 1 := by
          rw [split, List.length_append]
          omega
        obtain ⟨blanks, further, rfl, all, segments⟩ := tokens_from_segments behind _ later lexedBehind
        rw [split]
        exact ⟨[], _, rfl, List.forall_mem_nil _, .token visible again all segments⟩
termination_by text.length

section segments

variable {offset : Nat} {text : List Char} {found : List Placed}

/-- In front of a text that begins with a blank, the tokens are the same, and those of that text follow. -/
theorem segments_before (segments : Segments offset text found) :
    ∃ body, found = body ++ [⟨.ending, offset + text.length⟩] ∧ (∀ one ∈ body, one.token ≠ .ending) ∧
      ∀ more, StopsLike [] more →
        tokensFrom 0 offset (text ++ more) =
          (tokensFrom 0 (offset + text.length) more).map (body ++ ·) := by
  induction segments with
  | ending offset =>
      refine ⟨[], rfl, List.forall_mem_nil _, fun more _ => ?_⟩
      change tokensFrom 0 offset more = (tokensFrom 0 offset more).map id
      cases tokensFrom 0 offset more <;> rfl
  | @token offset c others blanks behind token later visible read blank segments induction =>
      obtain ⟨body, rfl, inside, followed⟩ := induction
      have total : offset + (c :: others).length + blanks.length + behind.length =
          offset + (c :: others ++ (blanks ++ behind)).length := by
        simp only [List.length_append]
        omega
      refine ⟨⟨token, offset⟩ :: body, ?_, List.forall_mem_cons.mpr ⟨?_, inside⟩, fun more stops => ?_⟩
      · rw [total]
        rfl
      · rintro rfl
        exact token_at_not_ending _ _ _ (read [] (stops_like_nothing _))
      · rw [List.append_assoc, tokens_behind_lexeme visible (read _ (stops_like_append _ stops)),
          List.append_assoc, tokens_from_blanks blank, followed more stops, total]
        cases tokensFrom 0 _ more <;> rfl

theorem segments_from (segments : Segments offset text found) : ∀ one ∈ found, offset ≤ one.offset := by
  induction segments with
  | ending offset => exact List.forall_mem_singleton.mpr (Nat.le_refl _)
  | token visible read blank segments induction =>
      refine List.forall_mem_cons.mpr ⟨Nat.le_refl _, fun one member => ?_⟩
      have behind := induction one member
      omega

theorem segments_ascending (segments : Segments offset text found) :
    found.Pairwise fun one later => one.offset < later.offset := by
  induction segments with
  | ending offset => exact List.pairwise_singleton _ _
  | token visible read blank segments induction =>
      refine List.pairwise_cons.mpr ⟨fun later member => ?_, induction⟩
      have behind := segments_from segments later member
      rw [List.length_cons] at behind
      dsimp only
      omega

theorem segments_start (segments : Segments offset text found) :
    ∃ first later, found = first :: later ∧ first.offset = offset := by
  cases segments with
  | ending => exact ⟨_, _, rfl, rfl⟩
  | token visible read blank segments => exact ⟨_, _, rfl, rfl⟩

/-- Alone, a segment has its token only. -/
theorem segment_tokens {c : Char} {others blanks behind : List Char} {token : Token}
    (visible : Text.isWhitespace c = false) (read : ReadAs c others (blanks ++ behind) token)
    (blank : ∀ space ∈ blanks, Text.isWhitespace space = true) :
    tokens (c :: others ++ blanks) =
      .ok [⟨token, 0⟩, ⟨.ending, (c :: others ++ blanks).length⟩] := by
  have passed := tokens_from_blanks blank [] (0 + (c :: others).length)
  rw [List.append_nil] at passed
  rw [tokens, tokens_behind_lexeme visible (read _ (stops_like_blanks _ blank)), passed,
    List.length_append, Nat.zero_add]
  rfl

/-- The characters from one token up to the next. -/
theorem segments_alone (segments : Segments offset text found) (before : List Char)
    (behind : before.length = offset) {front later : List Placed} {one next : Placed}
    (adjacent : found = front ++ one :: next :: later) :
    tokens ((before ++ text).extract one.offset next.offset) =
      .ok [⟨one.token, 0⟩, ⟨.ending, next.offset - one.offset⟩] := by
  induction segments generalizing before front with
  | ending offset => simp [List.cons_eq_append_iff] at adjacent
  | @token offset c others blanks further token rest visible read blank segments induction =>
      cases front with
      | nil =>
          cases adjacent
          obtain ⟨first, others', same, start⟩ := segments_start segments
          cases same
          have taken : next.offset - offset = (c :: others ++ blanks).length := by
            rw [start, List.length_append]
            omega
          have segment : (before ++ (c :: others ++ (blanks ++ further))).extract offset next.offset =
              c :: others ++ blanks := by
            rw [List.extract_eq_take_drop, ← behind, List.drop_left, behind, taken, ← List.append_assoc,
              List.take_left]
          dsimp only
          rw [segment, taken]
          exact segment_tokens visible read blank
      | cons first front =>
          have inside := (List.cons.inj adjacent).2
          have longer : (before ++ (c :: others ++ blanks)).length =
              offset + (c :: others).length + blanks.length := by
            rw [List.length_append, List.length_append, behind, Nat.add_assoc]
          have alone := induction _ longer inside
          rw [List.append_assoc, List.append_assoc] at alone
          exact alone

end segments

end Lexer

/-- The tokens of a text end with its only ending, behind all of its characters. Their offsets ascend from
the first character that is no blank, and the characters from one token up to the next have that token
alone. A blank keeps the tokens of a text apart from those of any text behind it. -/
theorem tokens_divide_text {text : List Char} {found : List Placed} (lexed : tokens text = .ok found) :
    ∃ body, found = body ++ [⟨.ending, text.length⟩] ∧ (∀ one ∈ body, one.token ≠ .ending) ∧
      found.Pairwise (fun one later => one.offset < later.offset) ∧
      (∀ first later, found = first :: later →
        ∀ c ∈ text.take first.offset, Text.isWhitespace c = true) ∧
      (∀ front one next later, found = front ++ one :: next :: later →
        tokens (text.extract one.offset next.offset) =
          .ok [⟨one.token, 0⟩, ⟨.ending, next.offset - one.offset⟩]) ∧
      ∀ blank rest, Text.isWhitespace blank = true →
        tokens (text ++ blank :: rest) =
          ((tokens rest).map fun later => body ++ later.map (Placed.moved (text.length + 1))).mapError
            (ParseError.moved (text.length + 1)) := by
  obtain ⟨blanks, behind, rfl, blank, segments⟩ := Lexer.tokens_from_segments text 0 found lexed
  rw [Nat.zero_add] at segments
  obtain ⟨body, same, inside, followed⟩ := Lexer.segments_before segments
  rw [← List.length_append] at same followed
  refine ⟨body, same, inside, Lexer.segments_ascending segments, ?_, ?_, ?_⟩
  · rintro first later rfl
    obtain ⟨other, others, heads, start⟩ := Lexer.segments_start segments
    cases heads
    rw [start, List.take_left]
    exact blank
  · intro front one next later adjacent
    exact Lexer.segments_alone segments blanks rfl adjacent
  · intro separator rest separates
    have stops := Lexer.stops_like_blank [] rest separates
    have moved := Lexer.tokens_from_moved ((blanks ++ behind).length + 1) 0 0 rest
    rw [Nat.zero_add] at moved
    rw [tokens, List.append_assoc, Lexer.tokens_from_blanks blank, Nat.zero_add, followed _ stops,
      Lexer.tokens_from_blank _ _ separates, moved, tokens]
    cases Lexer.tokensFrom 0 0 rest <;> rfl

/-- A number, an operator of two characters and a quoted text, with blanks at both ends only. -/
def crowded : List Char :=
  "\t1.<>'a b'  ".toList

def crowdedTokens : List Placed :=
  [⟨.float "1.", 1⟩, ⟨.notEqual, 3⟩, ⟨.string "a b", 5⟩, ⟨.ending, 12⟩]

theorem crowded_divided :
    tokens crowded = .ok crowdedTokens ∧
      crowdedTokens.Pairwise (fun one later => one.offset < later.offset) ∧
      (∀ c ∈ crowded.take 1, Text.isWhitespace c = true) ∧
      tokens (crowded.extract 3 5) = .ok [⟨.notEqual, 0⟩, ⟨.ending, 2⟩] ∧
      tokens (crowded ++ '\n' :: "= 'x'".toList) = .error ⟨.singleEquals, 13⟩ ∧
      tokens (crowded ++ '\n' :: "< 2".toList) =
        .ok [⟨.float "1.", 1⟩, ⟨.notEqual, 3⟩, ⟨.string "a b", 5⟩, ⟨.less, 13⟩, ⟨.integer 2, 15⟩,
          ⟨.ending, 16⟩] := by
  have lexed : tokens crowded = .ok crowdedTokens := by decide +kernel
  have refused : tokens "= 'x'".toList = .error ⟨.singleEquals, 0⟩ := by decide +kernel
  have behind : tokens "< 2".toList = .ok [⟨.less, 0⟩, ⟨.integer 2, 2⟩, ⟨.ending, 3⟩] := by decide +kernel
  obtain ⟨body, same, -, ascending, blank, alone, separated⟩ := tokens_divide_text lexed
  have front : crowdedTokens.dropLast = body := by rw [same, List.dropLast_concat]
  refine ⟨lexed, ascending, blank _ _ rfl, alone [⟨.float "1.", 1⟩] _ _ _ rfl, ?_, ?_⟩
  · rw [separated '\n' _ rfl, refused]
    rfl
  · rw [separated '\n' _ rfl, behind, ← front]
    rfl

end QueryCheck.Condition

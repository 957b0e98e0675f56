import QueryCheck.Proofs.Condition.Completeness
import QueryCheck.Proofs.Condition.FloatLexemes

/-!
# Parsing and the grammar

The tokens of a text in front of their ending derive the tree that the parser gives and no other. What
they derive is parsed, unless the levels are used up.
-/

namespace QueryCheck.Condition

set_option autoImplicit false

theorem split_at_ending {body phrase more : List Token} (free : .ending ∉ body)
    (same : body ++ [.ending] = phrase ++ .ending :: more) : phrase = body := by
  induction body generalizing phrase with
  | nil =>
      cases phrase with
      | nil => rfl
      | cons first rest => simp at same
  | cons first rest induction =>
      cases phrase with
      | nil =>
          have heads := (List.cons.inj same).1
          exact absurd (by rw [heads]; exact List.mem_cons_self) free
      | cons other others =>
          have parts := List.cons.inj same
          rw [parts.1, induction (fun inside => free (List.mem_cons_of_mem _ inside)) parts.2]

theorem parse_tokens_sound {found : List Placed} {body : List Token} {tree : Expr}
    (placed : found.map Placed.token = body ++ [.ending]) (free : .ending ∉ body)
    (parsed : parseTokens found = .ok tree) : Derives body tree := by
  cases found with
  | nil => cases parsed
  | cons first later =>
      have ends : Cursor.Ends ⟨first, later, 0⟩ := by
        change (List.map Placed.token (first :: later)).getLast? = some .ending
        rw [placed, List.getLast?_append]
        rfl
      unfold parseTokens at parsed
      dsimp only at parsed
      split at parsed
      · cases parsed
      · simp only [except_bind_ok] at parsed
        obtain ⟨⟨result, last⟩, run, finished⟩ := parsed
        dsimp only at finished
        split at finished
        · rename_i ended
          cases finished
          obtain ⟨phrase, taken, derived⟩ := Parser.expression_sound maxDepth _ _ _ ends run
          change List.map Placed.token (first :: later) = phrase ++ last.token :: _ at taken
          rw [placed, ended] at taken
          rw [← split_at_ending free taken]
          exact derived
        · cases finished

theorem parse_tokens_complete {found : List Placed} {body : List Token} {tree : Expr}
    (placed : found.map Placed.token = body ++ [.ending]) (derived : Derives body tree) :
    parseTokens found = .ok tree ∨ ∃ offset, parseTokens found = .error ⟨.nestedTooDeeply, offset⟩ := by
  cases found with
  | nil => simp at placed
  | cons first later =>
      obtain ⟨start, others, same, starts⟩ := phrase_starts derived
      have inside : Cursor.token ⟨first, later, 0⟩ ≠ .ending := by
        rw [same] at placed
        change first.token ≠ .ending
        rw [(List.cons.inj placed).1]
        exact (starts_inside starts).2.2.2
      unfold parseTokens
      dsimp only
      rw [if_neg inside]
      have stops : Stops .disjunction [.ending] := stops_outside rfl (.inr (.inr (.inr rfl)))
      have reads := Parser.expression_reads (fun remaining => Parser.phrase_reads derived remaining)
        maxDepth ⟨first, later, 0⟩ [.ending] placed stops
      rcases reads with ⟨last, run, left⟩ | ⟨offset, run⟩
      · left
        rw [run]
        exact if_pos (Cursor.token_of_tokens left)
      · right
        rw [run]
        exact ⟨offset, rfl⟩

/-- A text that lexes is parsed exactly as its tokens are derived. -/
theorem parse_exact (text : String) (found : List Placed) (lexed : tokens text.toList = .ok found) :
    ∃ body, found.map Placed.token = body ++ [.ending] ∧ .ending ∉ body ∧
      (∀ tree, parse text = .ok tree → Derives body tree) ∧
      (∀ tree, Derives body tree →
        parse text = .ok tree ∨ ∃ offset, parse text = .error ⟨.nestedTooDeeply, offset⟩) ∧
      (∀ tree other, parse text = .ok tree → Derives body other → other = tree) ∧
      ∀ lexeme, .float lexeme ∈ body → ∃ x, Phrase .value [.float lexeme] (.literal (.float x)) := by
  obtain ⟨body, placed, read⟩ := Lexer.tokens_from_read text.toList 0 0 found lexed
  have free : .ending ∉ body := by
    intro inside
    obtain ⟨c, rest, width, ending⟩ := read .ending inside
    exact Lexer.token_at_not_ending c rest width ending
  have parsed : parse text = parseTokens found := by
    unfold parse
    rw [lexed]
    rfl
  rw [parsed]
  refine ⟨body, placed, free, ?_, ?_, ?_, ?_⟩
  · intro tree
    exact parse_tokens_sound placed free
  · intro tree
    exact parse_tokens_complete placed
  · intro tree other given derived
    -- A text that has been parsed was not nested too deeply, so completeness leaves only its tree.
    rcases parse_tokens_complete placed derived with again | ⟨offset, failed⟩
    · rw [given] at again
      exact (Except.ok.inj again).symm
    · rw [given] at failed
      cases failed
  · intro lexeme inside
    obtain ⟨c, rest, width, float⟩ := read (.float lexeme) inside
    obtain ⟨x, value⟩ := Option.isSome_iff_exists.mp (Lexer.token_at_float float)
    exact ⟨x, .float value⟩

def difference : List Placed :=
  [⟨.word "a", 0⟩, ⟨.minus, 2⟩, ⟨.word "b", 4⟩, ⟨.minus, 6⟩, ⟨.float "1.5", 8⟩, ⟨.ending, 11⟩]

theorem difference_exact :
    tokens "a - b - 1.5".toList = .ok difference ∧
      ∃ body, difference.map Placed.token = body ++ [.ending] ∧ .ending ∉ body ∧
        (∀ tree, parse "a - b - 1.5" = .ok tree → Derives body tree) ∧
        ∀ tree, Derives body tree → parse "a - b - 1.5" = .ok tree ∨
          ∃ offset, parse "a - b - 1.5" = .error ⟨.nestedTooDeeply, offset⟩ := by
  have lexed : tokens "a - b - 1.5".toList = .ok difference := by rfl
  obtain ⟨body, placed, free, sound, complete, -⟩ := parse_exact "a - b - 1.5" difference lexed
  exact ⟨lexed, body, placed, free, sound, complete⟩

end QueryCheck.Condition

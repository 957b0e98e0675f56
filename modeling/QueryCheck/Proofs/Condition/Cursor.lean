import QueryCheck.Condition.Parser

/-!
# The tokens at a cursor

A cursor stands for the tokens from its own on. Where these end with the ending, advancing over any other
token really takes it away.
-/

namespace QueryCheck.Condition

set_option autoImplicit false

namespace Cursor

def tokens (c : Cursor) : List Token :=
  c.token :: c.later.map Placed.token

def Ends (c : Cursor) : Prop :=
  c.tokens.getLast? = some .ending

theorem tokens_ne_nil (c : Cursor) : c.tokens ≠ [] :=
  List.cons_ne_nil _ _

theorem tokens_length {c : Cursor} {rest : List Token} (found : c.tokens = rest) :
    c.later.length + 1 = rest.length := by
  rw [← found]
  simp [tokens]

theorem token_of_tokens {c : Cursor} {first : Token} {rest : List Token}
    (found : c.tokens = first :: rest) : c.token = first :=
  (List.cons.inj found).1

theorem advance_tokens {c : Cursor} {first second : Token} {rest : List Token}
    (found : c.tokens = first :: second :: rest) :
    c.advance.tokens = second :: rest ∧ c.nextToken = second := by
  have parts := (List.cons.inj found).2
  unfold advance nextToken
  cases behind : c.later with
  | nil =>
      rw [behind] at parts
      cases parts
  | cons next later =>
      rw [behind] at parts
      have heads := List.cons.inj parts
      refine ⟨?_, heads.1⟩
      change next.token :: later.map Placed.token = second :: rest
      rw [heads.1, heads.2]

theorem advance_length {c : Cursor} {first second : Token} {rest : List Token}
    (found : c.tokens = first :: second :: rest) : c.later.length = c.advance.later.length + 1 := by
  have whole := tokens_length found
  have behind := tokens_length (advance_tokens found).1
  rw [List.length_cons] at whole
  omega

/-- The ending stays in sight of every cursor further on. -/
theorem ends_of_suffix {c after : Cursor} {phrase : List Token} (ends : c.Ends)
    (split : c.tokens = phrase ++ after.tokens) : after.Ends := by
  unfold Ends at *
  rw [split, List.getLast?_append] at ends
  cases last : after.tokens.getLast? with
  | none => exact absurd (List.getLast?_eq_none_iff.mp last) after.tokens_ne_nil
  | some token =>
      rw [last] at ends
      exact ends

theorem advance_over {c : Cursor} {first : Token} (ends : c.Ends) (here : c.token = first)
    (inside : first ≠ .ending) :
    c.tokens = first :: c.advance.tokens ∧ c.advance.token = c.nextToken := by
  rw [← here] at inside ⊢
  unfold advance nextToken
  cases behind : c.later with
  | nil =>
      unfold Ends tokens at ends
      rw [behind] at ends
      exact absurd (Option.some.inj ends) inside
  | cons next later =>
      constructor
      · unfold tokens
        rw [behind]
        rfl
      · rfl

theorem advance_ends {c : Cursor} {first : Token} (ends : c.Ends) (here : c.token = first)
    (inside : first ≠ .ending) : c.advance.Ends := by
  have split : c.tokens = [first] ++ c.advance.tokens := (advance_over ends here inside).1
  exact ends_of_suffix ends split

theorem deepen_ok {c deeper : Cursor} (deepened : c.deepen = .ok deeper) :
    deeper = { c with depth := c.depth + 1 } := by
  unfold deepen at deepened
  split at deepened
  · cases deepened
  · exact (Except.ok.inj deepened).symm

theorem expect_ok {c after : Cursor} {token : Token} (expected : c.expect token = .ok after) :
    c.token = token ∧ after = c.advance := by
  unfold expect at expected
  split at expected
  · rename_i same
    exact ⟨same, (Except.ok.inj expected).symm⟩
  · cases expected

end Cursor

end QueryCheck.Condition

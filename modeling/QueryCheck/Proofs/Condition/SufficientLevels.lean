import QueryCheck.Proofs.Condition.Completeness
import QueryCheck.Proofs.Condition.Depth

/-!
# Phrases within the levels

How many levels the parser needs for a phrase is known beforehand: every sign takes one more than what
stands behind it, and every list one more than its items. Where so many are left, the phrase is read to
its end, whatever stands behind it.
-/

namespace QueryCheck.Condition

set_option autoImplicit false

namespace Parser

/-- So many levels are enough for the parser to read the phrase wherever the tokens behind it stop it. -/
def Suffice (levels : Nat) (parser : Parser Expr) (phrase : List Token) (tree : Expr)
    (stops : List Token → Prop) : Prop :=
  ∀ c rest, c.tokens = phrase ++ rest → stops rest → c.depth + levels ≤ maxDepth →
    ∃ after, parser c = .ok (tree, after) ∧ after.tokens = rest ∧ after.depth = c.depth

theorem deepen_of_room {c : Cursor} (room : c.depth < maxDepth) :
    c.deepen = .ok { c with depth := c.depth + 1 } :=
  if_neg (Nat.not_le.mpr room)

theorem nested_suffice {levels : Nat} {parser : Parser Expr} {phrase : List Token} {tree : Expr}
    {stops : List Token → Prop} (suffice : Suffice levels parser phrase tree stops) :
    Suffice (levels + 1) (nested parser) phrase tree stops := by
  intro c rest found stopped left
  obtain ⟨after, run, taken, -⟩ :=
    suffice { c with depth := c.depth + 1 } rest found stopped (by change c.depth + 1 + _ ≤ _; omega)
  refine ⟨{ after with depth := c.depth }, ?_, taken, rfl⟩
  unfold nested
  rw [deepen_of_room (by omega)]
  change (parser _ >>= _) = _
  rw [run]
  rfl

/-! ## From a level to the next one -/

section lifts

variable {level below : Level} {item : Parser Expr} {phrase : List Token} {tree : Expr} {levels : Nat}

theorem plain_suffice (plain : Plain level below)
    (headed : ∃ first others, phrase = first :: others ∧ Starts below first)
    (suffice : Suffice levels (levelParser item below) phrase tree (Stops below)) :
    Suffice levels (levelParser item level) phrase tree (Stops level) := by
  intro c rest found stops left
  obtain ⟨after, run, taken, restored⟩ :=
    suffice c rest found (stops_mono (plain_rank plain) stops) left
  refine ⟨after, ?_, taken, restored⟩
  obtain ⟨first, others, same, starts⟩ := headed
  rw [same] at found
  have here := Cursor.token_of_tokens found
  cases plain with
  | negation =>
      have noWord : c.token ≠ .word "not" := by
        rw [here]
        exact sum_starts_without_not starts
      exact (negation_without_not noWord).trans run
  | comparison =>
      rw [← taken] at stops
      change sum item c = _ at run
      change (sum item c >>= _) = _
      rw [run]
      change (comparisonLinks (sum item) after.later.length after >>= _) = _
      rw [comparison_links_stop _ after stops]
      rfl
  | signed =>
      have noSign := value_starts_without_sign starts
      rw [← here] at noSign
      exact (signed_without_sign noSign.1 noSign.2).trans run

theorem chain_suffice {operand : Parser Expr} {rest : List Token} {result : Expr}
    (suffice : Suffice levels operand phrase tree (Stops below))
    (stopsFirst : ∀ more, Stops level more → Stops below (rest ++ more))
    (continued : ∀ c more, c.tokens = rest ++ more → Stops level more → c.depth + levels ≤ maxDepth →
      ∃ after, links (operatorAt level) operand c.later.length tree c = .ok (result, after) ∧
        after.tokens = more) :
    Suffice levels (chain (operatorAt level) operand) (phrase ++ rest) result (Stops level) := by
  intro c more found stops left
  rw [List.append_assoc] at found
  obtain ⟨middle, run, taken, restored⟩ := suffice c _ found (stopsFirst more stops) left
  obtain ⟨after, linked, ended⟩ := continued middle more taken stops (by omega)
  refine ⟨{ after with depth := c.depth }, ?_, ended, rfl⟩
  unfold chain
  rw [run]
  change (links (operatorAt level) operand middle.later.length tree middle >>= _) = _
  rw [linked]
  rfl

theorem alone_suffice (chained : Chained level below)
    (suffice : Suffice levels (levelParser item below) phrase tree (Stops below)) :
    Suffice levels (levelParser item level) phrase tree (Stops level) := by
  rw [level_parser_chain chained, ← List.append_nil phrase]
  apply chain_suffice suffice
  · intro more stops
    exact stops_mono (chained_rank chained) stops
  · intro c more found stops _
    exact ⟨c, links_stop _ tree c (by rw [found]; exact stops), found⟩

theorem level_below {level : Level} (above : level ≠ .value) :
    ∃ next, (Chained level next ∨ Plain level next) ∧ level.rank = next.rank + 1 := by
  cases level with
  | disjunction => exact ⟨_, .inl .disjunction, rfl⟩
  | conjunction => exact ⟨_, .inl .conjunction, rfl⟩
  | negation => exact ⟨_, .inr .negation, rfl⟩
  | comparison => exact ⟨_, .inr .comparison, rfl⟩
  | sum => exact ⟨_, .inl .sum, rfl⟩
  | product => exact ⟨_, .inl .product, rfl⟩
  | signed => exact ⟨_, .inr .signed, rfl⟩
  | value => exact absurd rfl above

theorem rank_injective {level below : Level} (same : level.rank = below.rank) : level = below := by
  cases level <;> cases below <;> first | rfl | cases same

/-- A phrase of a level is one of every level above it, and takes no more levels there. -/
theorem suffice_above (lower : below.rank ≤ level.rank)
    (headed : ∃ first others, phrase = first :: others ∧ Starts below first)
    (suffice : Suffice levels (levelParser item below) phrase tree (Stops below)) :
    Suffice levels (levelParser item level) phrase tree (Stops level) := by
  -- From the level downwards, along the levels that a phrase may be made of alone.
  obtain ⟨distance, climb⟩ := Nat.exists_eq_add_of_le lower
  induction distance generalizing level with
  | zero =>
      rw [rank_injective climb]
      exact suffice
  | succ distance induction =>
      have above : level ≠ .value := by
        rintro rfl
        cases climb
      obtain ⟨next, step, rank⟩ := level_below above
      have reads := @induction next (by omega) (by omega)
      rcases step with chained | plain
      · exact alone_suffice chained reads
      · obtain ⟨first, others, same, starts⟩ := headed
        exact plain_suffice plain ⟨first, others, same, starts_mono (by omega) starts⟩ reads

end lifts

/-! ## Values -/

section values

variable {item : Parser Expr} {phrase : List Token} {tree : Expr} {levels : Nat}

theorem single_suffices {token : Token}
    (reads : ∀ c : Cursor, c.token = token → value item c = .ok (tree, c.advance)) :
    Suffice 0 (value item) [token] tree (Stops .value) := by
  intro c rest found stops _
  cases rest with
  | nil => cases stops.ends
  | cons next rest =>
      have run := reads c (Cursor.token_of_tokens found)
      exact ⟨c.advance, run, (Cursor.advance_tokens found).1, advance_depth c⟩

theorem minus_suffices (headed : ∃ first others, phrase = first :: others ∧ Starts .signed first)
    (suffice : Suffice levels (signed item) phrase tree (Stops .signed)) :
    Suffice (levels + 1) (signed item) (.minus :: phrase) (.neg tree) (Stops .signed) := by
  intro c rest found stops left
  obtain ⟨first, others, rfl, -⟩ := headed
  have behind := (Cursor.advance_tokens found).1
  obtain ⟨after, run, taken, restored⟩ :=
    nested_suffice suffice c.advance rest behind stops (by rw [advance_depth]; exact left)
  refine ⟨after, ?_, taken, by rw [restored, advance_depth]⟩
  rw [signed_of_minus (Cursor.token_of_tokens found) (Cursor.advance_length found), run]
  rfl

end values

/-! ## Lists -/

/-- A phrase that the parser of items reads with so many levels -/
structure ReadWithin (levels : Nat) (item : Parser Expr) (phrase : List Token) (tree : Expr) :
    Prop where
  headed : ∃ first others, phrase = first :: others ∧ Starts .disjunction first
  suffice : Suffice levels item phrase tree (Stops .disjunction)

/-- Phrases of one kind with commas between them, and their trees -/
inductive Separated (one : List Token → Expr → Prop) : List Token → List Expr → Prop where
  | none : Separated one [] []
  | last {phrase : List Token} {tree : Expr} (only : one phrase tree) : Separated one phrase [tree]
  | more {phrase rest : List Token} {tree : Expr} {trees : List Expr} (first : one phrase tree)
      (others : Separated one rest trees) : Separated one (phrase ++ .comma :: rest) (tree :: trees)

theorem Separated.imp {one other : List Token → Expr → Prop}
    (weaker : ∀ phrase tree, one phrase tree → other phrase tree) {phrase : List Token}
    {trees : List Expr} (separated : Separated one phrase trees) : Separated other phrase trees := by
  induction separated with
  | none => exact .none
  | last only => exact .last (weaker _ _ only)
  | more first _ induction => exact .more (weaker _ _ first) induction

section lists

variable {item : Parser Expr} {levels : Nat}

theorem items_open_within {phrase behind : List Token} {tree : Expr} {c : Cursor} (steps : Nat)
    (reads : ReadWithin levels item phrase tree) (placed : c.tokens = phrase ++ behind)
    (stops : Stops .disjunction behind) (left : c.depth + levels ≤ maxDepth) :
    ∃ after : Cursor, after.tokens = behind ∧ after.depth = c.depth ∧
      items item .closeBracket (steps + 1) c =
        if after.token = .comma then
          items item .closeBracket steps after.advance >>= fun others =>
            .ok (tree :: others.1, others.2)
        else after.expect .closeBracket >>= fun last => .ok ([tree], last) := by
  obtain ⟨after, run, taken, restored⟩ := reads.suffice c behind placed stops left
  obtain ⟨first, others, rfl, starts⟩ := reads.headed
  have notClosed : c.token ≠ .closeBracket := by
    rw [Cursor.token_of_tokens placed]
    exact (starts_inside starts).2.1
  refine ⟨after, taken, restored, ?_⟩
  rw [items, if_neg notClosed, run]
  rfl

theorem items_suffice {phrase : List Token} {trees : List Expr}
    (separated : Separated (ReadWithin levels item) phrase trees) :
    ∀ steps c rest, c.tokens = phrase ++ .closeBracket :: rest → rest.getLast? = some .ending →
      c.depth + levels ≤ maxDepth → c.later.length < steps →
        ∃ after, items item .closeBracket steps c = .ok (trees, after) ∧ after.tokens = rest ∧
          after.depth = c.depth := by
  intro steps c rest placed ends left enough
  have closes : (.closeBracket :: rest : List Token).getLast? = some .ending :=
    ends_append ends [.closeBracket]
  induction separated generalizing steps c with
  | none =>
      cases steps with
      | zero => omega
      | succ steps =>
          cases rest with
          | nil => cases ends
          | cons next rest =>
              refine ⟨c.advance, ?_, (Cursor.advance_tokens placed).1, advance_depth c⟩
              rw [items, if_pos (Cursor.token_of_tokens placed)]
  | last only =>
      cases steps with
      | zero => omega
      | succ steps =>
          cases rest with
          | nil => cases ends
          | cons next rest =>
              have stops : Stops .disjunction (.closeBracket :: next :: rest) :=
                stops_outside closes (.inr (.inl rfl))
              obtain ⟨after, taken, restored, run⟩ := items_open_within steps only placed stops left
              have last := Cursor.token_of_tokens taken
              refine ⟨after.advance, ?_, (Cursor.advance_tokens taken).1, ?_⟩
              · rw [run, if_neg (by rw [last]; decide), Cursor.expect, if_pos last]
                rfl
              · rw [advance_depth, restored]
  | @more phrase listed tree trees first others induction =>
      rw [List.append_assoc, List.cons_append] at placed
      have endsBehind := ends_append closes listed
      -- Whether items follow the comma or the closing bracket does, some token stands behind it.
      have nonempty : listed ++ .closeBracket :: rest ≠ [] := by simp
      obtain ⟨next, more, behind⟩ := List.exists_cons_of_ne_nil nonempty
      rw [behind] at placed endsBehind
      have total := Cursor.tokens_length placed
      simp only [List.length_cons, List.length_append] at total
      cases steps with
      | zero => omega
      | succ steps =>
          have comma : Stops .disjunction (.comma :: next :: more) :=
            stops_outside (ends_append endsBehind [.comma]) (.inr (.inr (.inl rfl)))
          obtain ⟨after, taken, restored, run⟩ := items_open_within steps first placed comma left
          have remaining := Cursor.tokens_length taken
          have advanced := (Cursor.advance_tokens taken).1
          have shorter := Cursor.tokens_length advanced
          simp only [List.length_cons] at remaining shorter
          obtain ⟨last, listedRun, ended, kept⟩ := induction steps after.advance
            (by rw [advanced, behind]) (by rw [advance_depth, restored]; exact left) (by omega)
          refine ⟨last, ?_, ended, by rw [kept, advance_depth, restored]⟩
          rw [run, if_pos (Cursor.token_of_tokens taken), listedRun]
          rfl

theorem list_suffices {phrase : List Token} {trees : List Expr}
    (separated : Separated (ReadWithin levels item) phrase trees) :
    Suffice levels (value item) (.openBracket :: phrase ++ [.closeBracket]) (.list trees)
      (Stops .value) := by
  intro c rest found stops left
  simp only [List.cons_append, List.append_assoc, List.nil_append] at found
  have nonempty : phrase ++ .closeBracket :: rest ≠ [] := by simp
  obtain ⟨next, more, behind⟩ := List.exists_cons_of_ne_nil nonempty
  rw [behind] at found
  have inside := (Cursor.advance_tokens found).1
  rw [← behind] at inside
  obtain ⟨after, run, taken, restored⟩ := items_suffice separated (c.advance.later.length + 1)
    c.advance rest inside stops.ends (by rw [advance_depth]; exact left) (Nat.lt_succ_self _)
  refine ⟨after, ?_, taken, by rw [restored, advance_depth]⟩
  unfold value
  rw [Cursor.token_of_tokens found]
  change (items item .closeBracket (c.advance.later.length + 1) c.advance >>= _) = _
  rw [run]
  rfl

end lists

/-! ## Whole conditions -/

/-- A phrase for which there are enough levels altogether is parsed. -/
theorem parse_tokens_within {found : List Placed} {phrase : List Token} {tree : Expr}
    (placed : found.map Placed.token = phrase ++ [.ending])
    (reads : ReadWithin maxDepth (expression maxDepth) phrase tree) : parseTokens found = .ok tree := by
  obtain ⟨start, others, headed, starts⟩ := reads.headed
  cases found with
  | nil => simp at placed
  | cons first later =>
      have inside : Cursor.token ⟨first, later, 0⟩ ≠ .ending := by
        rw [headed] at placed
        change first.token ≠ .ending
        rw [(List.cons.inj placed).1]
        exact (starts_inside starts).2.2.2
      have stops : Stops .disjunction [.ending] := stops_outside rfl (.inr (.inr (.inr rfl)))
      obtain ⟨after, run, left, -⟩ := reads.suffice ⟨first, later, 0⟩ [.ending] placed stops
        (Nat.le_of_eq (Nat.zero_add _))
      unfold parseTokens
      dsimp only
      rw [if_neg inside, run]
      exact if_pos (Cursor.token_of_tokens left)

end Parser

end QueryCheck.Condition

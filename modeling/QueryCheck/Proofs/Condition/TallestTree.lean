import QueryCheck.Proofs.Condition.Paths
import QueryCheck.Proofs.Condition.Spelling
import QueryCheck.Proofs.Condition.SufficientLevels

/-!
# The tallest tree of a condition

With every level that is left a phrase puts a list around the phrase before and chains of all four
kinds around the list, as long as they may be. The parser reads it: a phrase is read to its end where
the levels suffice for it. So the bound on the height of parsed trees is attained, and it lies far above
the number of levels.
-/

namespace QueryCheck.Condition

set_option autoImplicit false

namespace Parser

/-! ## Links that are all alike -/

def one : Expr := .literal (.integer 1)

/-- A chain of so many operators, with the number one for every operand. -/
def rungs (sign : Token) : Nat → List Token
  | 0 => []
  | count + 1 => sign :: .integer 1 :: rungs sign count

def stacked (build : Expr → Expr → Expr) : Nat → Expr → Expr
  | 0, left => left
  | count + 1, left => stacked build count (build left one)

section rungs

variable {level below : Level} {item : Parser Expr} {sign : Token} {build : Expr → Expr → Expr}

theorem one_suffices (level : Level) :
    Suffice 0 (levelParser item level) [.integer 1] one (Stops level) := by
  have value : Suffice 0 (value item) [.integer 1] one (Stops .value) := by
    refine single_suffices fun c here => ?_
    unfold Parser.value
    rw [here]
    rfl
  have above : Level.value.rank ≤ level.rank := Nat.zero_le _
  exact suffice_above above ⟨_, _, rfl, .inl rfl⟩ value

theorem rungs_stop (chained : Chained level below) (operates : Operator level sign build) (count : Nat)
    {more : List Token} (stops : Stops level more) : Stops below (rungs sign count ++ more) := by
  cases count with
  | zero => exact stops_mono (chained_rank chained) stops
  | succ count =>
      exact stops_before_operator chained operates (ends_append stops.ends (rungs sign (count + 1)))

theorem rungs_read (chained : Chained level below) (operates : Operator level sign build)
    (count steps : Nat) (left : Expr) (c : Cursor) (more : List Token)
    (found : c.tokens = rungs sign count ++ more) (stops : Stops level more)
    (room : c.depth + count ≤ maxDepth) (enough : count ≤ steps) :
    ∃ after, links (operatorAt level) (levelParser item below) steps left c =
      .ok (stacked build count left, after) ∧ after.tokens = more := by
  induction count generalizing steps left c with
  | zero => exact ⟨c, links_stop steps left c (by rw [found]; exact stops), found⟩
  | succ count induction =>
      cases steps with
      | zero => omega
      | succ steps =>
          have behind := (Cursor.advance_tokens (c := { c with depth := c.depth + 1 }) found).1
          obtain ⟨middle, run, taken, restored⟩ := one_suffices below _ (rungs sign count ++ more)
            behind (rungs_stop chained operates count stops)
            (by rw [advance_depth]; change c.depth + 1 + 0 ≤ _; omega)
          rw [advance_depth] at restored
          change middle.depth = c.depth + 1 at restored
          obtain ⟨after, linked, ended⟩ :=
            induction steps (build left one) middle taken (by omega) (by omega)
          refine ⟨after, ?_, ended⟩
          unfold links
          rw [Cursor.token_of_tokens found, (operator_at_iff level sign build).mpr operates,
            deepen_of_room (by omega)]
          change (levelParser item below _ >>= _) = _
          rw [run]
          exact linked

theorem climb_suffices {phrase : List Token} {tree : Expr} {levels : Nat}
    (chained : Chained level below) (operates : Operator level sign build)
    (suffice : Suffice levels (levelParser item below) phrase tree (Stops below)) :
    Suffice levels (levelParser item level) (phrase ++ rungs sign levels) (stacked build levels tree)
      (Stops level) := by
  rw [level_parser_chain chained]
  apply chain_suffice suffice
  · intro more stops
    exact rungs_stop chained operates levels stops
  · intro c more found stops room
    have long : ∀ count, (rungs sign count).length = 2 * count := by
      intro count
      induction count with
      | zero => rfl
      | succ count induction =>
          simp only [rungs, List.length_cons]
          omega
    have total := Cursor.tokens_length found
    have nonempty : more ≠ [] := by
      rintro rfl
      cases stops.ends
    have some := List.length_pos_iff.mpr nonempty
    rw [List.length_append, long] at total
    exact rungs_read chained operates levels _ tree c more found stops room (by omega)

end rungs

/-! ## Towers -/

/-- A list around a phrase, and all the links that may stand behind the list. -/
def raised (levels : Nat) (phrase : List Token) : List Token :=
  .openBracket :: phrase ++ [.closeBracket] ++ rungs .star levels ++ rungs .plus levels ++
    rungs (.word "and") levels ++ rungs (.word "or") levels

def tower : Nat → List Token
  | 0 => [.integer 1]
  | levels + 1 => raised (levels + 1) (tower levels)

def raisedTree (levels : Nat) (tree : Expr) : Expr :=
  stacked .or levels (stacked .and levels (stacked (.arithmetic .add) levels
    (stacked (.arithmetic .mul) levels (.list [tree]))))

def towerTree : Nat → Expr
  | 0 => one
  | levels + 1 => raisedTree (levels + 1) (towerTree levels)

theorem tower_headed (levels : Nat) (level : Level) :
    ∃ first others, tower levels = first :: others ∧ Starts level first := by
  cases levels with
  | zero => exact ⟨_, _, rfl, .inl rfl⟩
  | succ levels => exact ⟨_, _, rfl, .inl rfl⟩

theorem raised_suffices {levels : Nat} {item : Parser Expr} {phrase : List Token} {tree : Expr}
    (headed : ∃ first others, phrase = first :: others ∧ Starts .disjunction first)
    (suffice : Suffice levels item phrase tree (Stops .disjunction)) :
    Suffice levels (levelParser item .disjunction) (raised levels phrase) (raisedTree levels tree)
      (Stops .disjunction) := by
  have value : Suffice levels (levelParser item .value) _ _ (Stops .value) :=
    list_suffices (.last ⟨headed, suffice⟩)
  have signed := plain_suffice .signed ⟨_, _, rfl, .inl rfl⟩ value
  have product := climb_suffices .product .mul signed
  have sum := climb_suffices .sum .add product
  have comparison := plain_suffice .comparison ⟨_, _, rfl, .inl rfl⟩ sum
  have negation := plain_suffice .negation ⟨_, _, rfl, .inl rfl⟩ comparison
  have conjunction := climb_suffices .conjunction .and negation
  exact climb_suffices .disjunction .or conjunction

theorem tower_suffices (levels more : Nat) :
    Suffice levels (disjunction (expression (levels + more))) (tower levels) (towerTree levels)
      (Stops .disjunction) := by
  induction levels with
  | zero => exact one_suffices .disjunction
  | succ levels induction =>
      rw [Nat.succ_add]
      exact raised_suffices (tower_headed levels .disjunction) (nested_suffice induction)

theorem stacked_height {level : Level} {sign : Token} {build : Expr → Expr → Expr}
    (operates : Operator level sign build) (count : Nat) (left : Expr) (tall : 1 ≤ left.height) :
    (stacked build count left).height = left.height + count := by
  induction count generalizing left with
  | zero => rfl
  | succ count induction =>
      have whole := operator_height operates left one
      rw [show one.height = 1 from rfl, Nat.max_eq_left tall] at whole
      rw [stacked, induction _ (by omega), whole]
      omega

theorem tower_height (levels : Nat) : (towerTree levels).height + 1 = valueHeight (levels + 1) := by
  induction levels with
  | zero => rfl
  | succ levels induction =>
      have list : (Expr.list [towerTree levels]).height = valueHeight (levels + 1) := by
        rw [← induction]
        exact congrArg (· + 1) (Nat.max_zero _)
      have product := stacked_height .mul (levels + 1) (.list [towerTree levels]) (by omega)
      have sum := stacked_height .add (levels + 1) _ (by rw [product]; omega)
      have conjunction := stacked_height .and (levels + 1) _ (by rw [sum]; omega)
      have disjunction := stacked_height .or (levels + 1) _ (by rw [conjunction]; omega)
      rw [towerTree, raisedTree, disjunction, conjunction, sum, product, list]
      change _ = valueHeight (levels + 1) + 4 * (levels + 1) + 1
      omega

end Parser

/-! ## The text of a tower -/

namespace Lexer

/-- The tokens of towers. -/
def rungTokens : List Token :=
  [.openBracket, .closeBracket, .integer 1, .star, .plus, .word "and", .word "or"]

def spelling : Token → List Char
  | .openBracket => ['[']
  | .closeBracket => [']']
  | .star => ['*']
  | .plus => ['+']
  | .word text => text.toList
  | _ => ['1']

/-- Every token with a blank behind it. -/
def spaced (phrase : List Token) : List Char :=
  phrase.flatMap fun token => spelling token ++ [' ']

theorem spaced_one (rest : List Char) : tokenAt '1' (' ' :: rest) = .ok (.integer 1, 1) := by
  have one : readInt64 ['1'] = some 1 := by decide
  have blank : isWordStart ' ' = false := by rfl
  simp [tokenAt, startsNumber, number, fractionLexeme, exponentLexeme, numberToken, one, blank,
    Except.map]

theorem spaced_token {token : Token} (known : token ∈ rungTokens) (offset : Nat) (rest : List Char)
    (later : List Placed)
    (lexed : tokensFrom 0 (offset + (spelling token).length + 1) rest = .ok later) :
    tokensFrom 0 offset (spelling token ++ ' ' :: rest) = .ok (⟨token, offset⟩ :: later) := by
  have behind : tokensFrom 0 (offset + (spelling token).length) (' ' :: rest) = .ok later :=
    (tokens_from_blank rest _ rfl).trans lexed
  simp only [rungTokens, List.mem_cons, List.not_mem_nil, or_false] at known
  rcases known with rfl | rfl | rfl | rfl | rfl | rfl | rfl
  · exact tokens_from_token rfl rfl behind
  · exact tokens_from_token rfl rfl behind
  · exact tokens_from_token rfl (spaced_one rest) behind
  · exact tokens_from_token rfl rfl behind
  · exact tokens_from_token rfl rfl behind
  · exact tokens_from_token rfl rfl behind
  · exact tokens_from_token rfl rfl behind

theorem spaced_tokens (phrase : List Token) (known : ∀ token ∈ phrase, token ∈ rungTokens)
    (offset : Nat) : ∃ found, tokensFrom 0 offset (spaced phrase) = .ok found ∧
      found.map Placed.token = phrase ++ [.ending] := by
  induction phrase generalizing offset with
  | nil => exact ⟨_, rfl, rfl⟩
  | cons token phrase induction =>
      rw [List.forall_mem_cons] at known
      obtain ⟨later, lexed, placed⟩ := induction known.2 (offset + (spelling token).length + 1)
      refine ⟨⟨token, offset⟩ :: later, ?_, by rw [List.map_cons, placed]; rfl⟩
      have split : spaced (token :: phrase) = spelling token ++ ' ' :: spaced phrase := by
        simp [spaced]
      rw [split]
      exact spaced_token known.1 offset _ later lexed

end Lexer

namespace Parser

theorem rungs_known {sign : Token} (known : sign ∈ Lexer.rungTokens) (count : Nat) :
    ∀ token ∈ rungs sign count, token ∈ Lexer.rungTokens := by
  induction count with
  | zero => nofun
  | succ count induction =>
      rw [rungs, List.forall_mem_cons, List.forall_mem_cons]
      exact ⟨known, by decide, induction⟩

theorem tower_known (levels : Nat) : ∀ token ∈ tower levels, token ∈ Lexer.rungTokens := by
  induction levels with
  | zero =>
      rw [tower, List.forall_mem_singleton]
      decide
  | succ levels induction =>
      simp only [tower, raised, List.forall_mem_append, List.forall_mem_cons]
      exact ⟨⟨⟨⟨⟨⟨by decide, induction⟩, by decide⟩, rungs_known (by decide) _⟩,
        rungs_known (by decide) _⟩, rungs_known (by decide) _⟩, rungs_known (by decide) _⟩

/-- The tallest phrase that the levels allow. -/
def tallest : String :=
  String.ofList (Lexer.spaced (tower (maxDepth - 1)))

theorem tallest_parsed : parse tallest = .ok (towerTree (maxDepth - 1)) := by
  obtain ⟨found, lexed, placed⟩ := Lexer.spaced_tokens (tower (maxDepth - 1)) (tower_known _) 0
  have listed : tokens tallest.toList = .ok found := by
    rw [tallest, String.toList_ofList]
    exact lexed
  unfold parse
  rw [listed]
  exact parse_tokens_within placed
    ⟨tower_headed _ .disjunction, nested_suffice (tower_suffices (maxDepth - 1) 0)⟩

end Parser

/-- The bound on the height of parsed trees is attained. -/
theorem tallest_tree_height :
    ∃ text tree, parse text = .ok tree ∧ tree.height = maxDepth * (2 * maxDepth - 1) := by
  have closed := value_height_closed maxDepth
  have height := Parser.tower_height (maxDepth - 1)
  rw [Nat.sub_add_cancel (by decide)] at height
  refine ⟨Parser.tallest, _, Parser.tallest_parsed, ?_⟩
  generalize (Parser.towerTree (maxDepth - 1)).height = tallest at height ⊢
  generalize valueHeight maxDepth = most at closed height
  unfold maxDepth at closed ⊢
  omega

/-- The turns of a path to first operands aside, a parsed tree keeps to the levels. It does so
altogether exactly when no path has more such turns than its other nodes leave levels; even then its
height has a bound. -/
theorem parsed_tree_height (text : String) (tree : Expr) (parsed : parse text = .ok tree) :
    (∀ turns others, tree.Path turns others → others ≤ maxDepth) ∧
      (tree.height ≤ maxDepth ↔ ∀ turns others, tree.Path turns others → turns ≤ maxDepth - others) ∧
      tree.height ≤ maxDepth * (2 * maxDepth - 1) := by
  have fits := parsed_fits text tree parsed
  have inside : ∀ turns others, tree.Path turns others → others ≤ maxDepth := by
    intro turns others path
    exact Nat.le_trans (Expr.path_bounds path).2 fits.nesting
  refine ⟨inside, ⟨?_, ?_⟩, ?_⟩
  · intro low turns others path
    have short := (Expr.path_bounds path).1
    omega
  · intro few
    obtain ⟨turns, others, path, longest⟩ := tree.longest_path
    have left := few turns others path
    have taken := inside turns others path
    omega
  · have closed := value_height_closed maxDepth
    have height := fits.height
    unfold maxDepth at closed height ⊢
    omega

/-- Signs up to the last level, and a link above them. -/
def signedSum : String :=
  String.ofList (List.replicate 63 '-' ++ ['1', ' ', '+', ' ', '1'])

theorem signed_sum_height :
    ∃ tree, parse signedSum = .ok tree ∧
      (∀ turns others, tree.Path turns others → others ≤ maxDepth) ∧
      (tree.height ≤ maxDepth ↔ ∀ turns others, tree.Path turns others → turns ≤ maxDepth - others) ∧
      tree.height ≤ maxDepth * (2 * maxDepth - 1) := by
  have accepted : (parse signedSum).toOption.isSome = true := by decide +kernel
  cases parsed : parse signedSum with
  | error e =>
      rw [parsed] at accepted
      cases accepted
  | ok tree => exact ⟨tree, rfl, parsed_tree_height signedSum tree parsed⟩

/-- The link stands a level above all levels that there are. -/
theorem signed_sum_exceeds_levels : ∃ tree, parse signedSum = .ok tree ∧ maxDepth < tree.height := by
  have height : (parse signedSum).toOption.map Expr.height = some 65 := by decide +kernel
  cases parsed : parse signedSum with
  | error e =>
      rw [parsed] at height
      cases height
  | ok tree =>
      rw [parsed] at height
      refine ⟨tree, rfl, ?_⟩
      rw [show tree.height = 65 from Option.some.inj height]
      decide

end QueryCheck.Condition

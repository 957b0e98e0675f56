import QueryCheck.Proofs.Condition.Failures
import QueryCheck.Proofs.Condition.ParserRuns
import QueryCheck.Proofs.Condition.Parsing

/-!
# Parsed trees are well formed

Every call of a parsed tree has arguments that its function takes, and every comparison a link. An
evaluation therefore finds an argument wherever it needs one, as the parser finds a number in every float.
-/

namespace QueryCheck.Condition

set_option autoImplicit false

/-! ## Well-formed trees -/

namespace Expr

theorem At.trans {e middle found : Expr} {outer inner : List Nat} (above : e.At outer middle)
    (below : middle.At inner found) : e.At (outer ++ inner) found := by
  induction above with
  | root e => exact below
  | inside numbered _ induction => exact .inside numbered (induction below)

/-- A call has as many arguments as its function takes, and a comparison at least one link. -/
def Formed : Expr → Prop
  | call builtin arguments => builtin.admits arguments.length = true
  | compare _ links => links ≠ []
  | _ => True

def WellFormed (e : Expr) : Prop :=
  ∀ place node, e.At place node → node.Formed

theorem well_formed_of_parts {e : Expr} (formed : e.Formed) (parts : ∀ part ∈ e.parts, part.WellFormed) :
    e.WellFormed := by
  intro place node inside
  cases inside with
  | root => exact formed
  | inside numbered below => exact parts _ (List.mem_of_getElem? numbered) _ _ below

theorem not_admitted_without_argument (builtin : Builtin) : builtin.admits 0 = false := by
  cases builtin <;> rfl

theorem single_argument {builtin : Builtin} (single : builtin ≠ .coalesce) {arguments : List Expr}
    (admitted : builtin.admits arguments.length = true) : ∃ argument, arguments = [argument] := by
  apply List.length_eq_one_iff.mp
  cases builtin with
  | coalesce => contradiction
  | _ => exact of_decide_eq_true admitted

theorem well_formed_not_missing {e : Expr} (formed : e.WellFormed) (row : Row) (builtin : Builtin) :
    e.eval row ≠ .error (.argumentMissing builtin) := by
  intro failed
  obtain ⟨place, node, inside, lacks⟩ := lacking_node id failed
  cases lacks with
  | argument single =>
      have admitted : builtin.admits 0 = true := formed place _ inside
      rw [not_admitted_without_argument] at admitted
      cases admitted

theorem WellFormed.node {e node : Expr} {place : List Nat} (formed : e.WellFormed)
    (inside : e.At place node) : node.WellFormed :=
  fun _ _ below => formed _ _ (inside.trans below)

end Expr

/-! ## The trees of phrases -/

theorem operator_well_formed {level : Level} {sign : Token} {build : Expr → Expr → Expr}
    (operates : Operator level sign build) {left right : Expr} (first : left.WellFormed)
    (second : right.WellFormed) : (build left right).WellFormed := by
  have both : ∀ part ∈ [left, right], part.WellFormed := by
    rintro part (_ | ⟨_, _ | ⟨_, ⟨⟩⟩⟩)
    · exact first
    · exact second
  cases operates <;> exact Expr.well_formed_of_parts trivial both

theorem alone_well_formed {e operand : Expr} (formed : e.Formed) (only : e.parts = [operand])
    (inner : operand.WellFormed) : e.WellFormed := by
  apply Expr.well_formed_of_parts formed
  rw [only]
  exact List.forall_mem_singleton.mpr inner

theorem leaf_well_formed {e : Expr} (formed : e.Formed) (leaf : e.parts = []) : e.WellFormed := by
  apply Expr.well_formed_of_parts formed
  rw [leaf]
  exact List.forall_mem_nil _

mutual

theorem phrase_well_formed {level : Level} {phrase : List Token} {tree : Expr}
    (derived : Phrase level phrase tree) : tree.WellFormed := by
  match derived with
  | .chain chained start links => exact chain_well_formed links (phrase_well_formed start)
  | .plain plain alone => exact phrase_well_formed alone
  | .not operand => exact alone_well_formed trivial rfl (phrase_well_formed operand)
  | .compare start linked nonempty =>
      exact Expr.well_formed_of_parts nonempty
        (List.forall_mem_cons.mpr ⟨phrase_well_formed start, links_well_formed linked⟩)
  | .minus operand => exact alone_well_formed trivial rfl (phrase_well_formed operand)
  | .plus operand => exact phrase_well_formed operand
  | .integer n => exact leaf_well_formed trivial rfl
  | .float read => exact leaf_well_formed trivial rfl
  | .string text => exact leaf_well_formed trivial rfl
  | .literal known => exact leaf_well_formed trivial rfl
  | .name free => exact leaf_well_formed trivial rfl
  | .call builtin listed admitted =>
      exact Expr.well_formed_of_parts admitted (items_well_formed listed)
  | .parentheses inner => exact phrase_well_formed inner
  | .list listed => exact Expr.well_formed_of_parts trivial (items_well_formed listed)

theorem chain_well_formed {level operand : Level} {left tree : Expr} {rest : List Token}
    (derived : Chain level operand left rest tree) (first : left.WellFormed) : tree.WellFormed := by
  match derived with
  | .done level operand tree => exact first
  | .link operates behind links =>
      exact chain_well_formed links (operator_well_formed operates first (phrase_well_formed behind))

theorem links_well_formed {phrase : List Token} {links : List (Comparison × Expr)}
    (derived : Links phrase links) : ∀ operand ∈ links.map Prod.snd, operand.WellFormed := by
  match derived with
  | .done => exact List.forall_mem_nil _
  | .link sign behind linked =>
      exact List.forall_mem_cons.mpr ⟨phrase_well_formed behind, links_well_formed linked⟩

theorem items_well_formed {phrase : List Token} {items : List Expr} (derived : Items phrase items) :
    ∀ item ∈ items, item.WellFormed := by
  match derived with
  | .none => exact List.forall_mem_nil _
  | .last only => exact List.forall_mem_singleton.mpr (phrase_well_formed only)
  | .more first others =>
      exact List.forall_mem_cons.mpr ⟨phrase_well_formed first, items_well_formed others⟩

end

theorem parsed_derives {text : String} {tree : Expr} (parsed : parse text = .ok tree) :
    ∃ body, Derives body tree := by
  simp only [parse, except_bind_ok] at parsed
  obtain ⟨found, lexed, parsed⟩ := parsed
  obtain ⟨body, placed, read⟩ := Lexer.tokens_from_read text.toList 0 0 found lexed
  refine ⟨body, parse_tokens_sound placed ?_ parsed⟩
  intro inside
  obtain ⟨c, rest, width, ending⟩ := read .ending inside
  exact Lexer.token_at_not_ending c rest width ending

/-! ## Floats -/

namespace Lexer

theorem string_body_fault {quote : Char} {text : List Char} {fault : Fault}
    (failed : stringBody quote text = .error fault) (lexeme : String) :
    fault ≠ .malformedFloat lexeme := by
  fun_induction stringBody quote text with
  | case1 =>
      cases failed
      intro same
      cases same
  | case2 =>
      cases failed
      intro same
      cases same
  | case3 c rest content width succeeds induction => cases failed
  | case4 c rest inner fails induction =>
      cases failed
      exact induction fails
  | case5 rest noEscape noPair => cases failed
  | case6 c rest noEscape noPair noQuote content width succeeds induction => cases failed
  | case7 c rest noEscape noPair noQuote inner fails induction =>
      cases failed
      exact induction fails

theorem number_fault {text : List Char} {fault : Fault} (failed : number text = .error fault)
    (lexeme : String) : fault ≠ .malformedFloat lexeme := by
  have token : ∀ {whole fraction exponent : List Char} {width : Nat} {fault : Fault},
      (numberToken whole fraction exponent).map (·, width) = .error fault →
        fault ≠ .malformedFloat lexeme := by
    intro whole fraction exponent width fault failed
    unfold numberToken at failed
    split at failed
    · split at failed
      · cases failed
      · cases failed
        nofun
    · cases failed
  unfold number at failed
  dsimp only at failed
  split at failed
  · split at failed
    · cases failed
      nofun
    · exact token failed
  · exact token failed

theorem token_at_fault {c : Char} {rest : List Char} {fault : Fault}
    (failed : tokenAt c rest = .error fault) (lexeme : String) : fault ≠ .malformedFloat lexeme := by
  unfold tokenAt at failed
  dsimp only at failed
  split at failed
  · split at failed
    · cases failed
    · rename_i inner fails
      cases failed
      exact string_body_fault fails lexeme
  · split at failed
    · exact number_fault failed lexeme
    · split at failed
      · cases failed
      · split at failed
        · cases failed
          nofun
        · split at failed
          · cases failed
          · cases failed
            nofun

theorem tokens_from_fault {text : List Char} {skip offset : Nat} {e : ParseError}
    (failed : tokensFrom skip offset text = .error e) (lexeme : String) :
    e.fault ≠ .malformedFloat lexeme := by
  induction text generalizing skip offset with
  | nil => cases failed
  | cons c rest induction =>
      unfold tokensFrom at failed
      split at failed
      · exact induction failed
      · split at failed
        · exact induction failed
        · split at failed
          · rename_i fault fails
            cases failed
            exact token_at_fault fails lexeme
          · split at failed
            · cases failed
            · rename_i other fails
              cases failed
              exact induction fails

theorem float_token_shaped {text : List Char} {found : List Placed} (lexed : tokens text = .ok found)
    {lexeme : String} (member : .float lexeme ∈ found.map Placed.token) : FloatText lexeme.toList := by
  obtain ⟨body, placed, read⟩ := tokens_from_read text 0 0 found lexed
  rw [placed, List.mem_append] at member
  rcases member with inside | last
  · obtain ⟨c, rest, width, float⟩ := read (.float lexeme) inside
    exact token_at_float_text float
  · cases List.mem_singleton.mp last

end Lexer

theorem parse_not_malformed (text lexeme : String) (offset : Nat) :
    parse text ≠ .error ⟨.malformedFloat lexeme, offset⟩ := by
  intro failed
  rcases except_bind_error.mp failed with unlexed | ⟨found, lexed, failed⟩
  · exact Lexer.tokens_from_fault unlexed lexeme rfl
  · have ended := tokens_ended lexed
    obtain ⟨outcome, ⟨calls, run⟩, same⟩ := Procedure.condition_runs ended
    rw [failed] at same
    cases outcome with
    | ok result => cases same
    | error e =>
        cases same
        have permitted := (runs_keep (Procedure.contract_kept ended) run Procedure.condition_keeps).2.2
        obtain ⟨member, unread⟩ := permitted _ rfl lexeme rfl
        have reads := Lexer.float_text_reads (Lexer.float_token_shaped lexed member)
        rw [unread] at reads
        cases reads

/-- No text is refused for a float, and every float token is a number text that has a value. In a parsed
tree every call has as many arguments as its function takes, so that none is dropped, and every comparison
has a link; no evaluation of a node finds an argument missing. -/
theorem parsed_never_malformed (text : String) :
    (∀ lexeme offset, parse text ≠ .error ⟨.malformedFloat lexeme, offset⟩) ∧
    (∀ found, tokens text.toList = .ok found →
      ∀ lexeme offset, ⟨.float lexeme, offset⟩ ∈ found →
        Lexer.FloatText lexeme.toList ∧ (Binary64.read? lexeme.toList).isSome = true) ∧
    ∀ tree, parse text = .ok tree →
      (∀ place builtin arguments, tree.At place (.call builtin arguments) →
        builtin.admits arguments.length = true ∧
          (builtin ≠ .coalesce → ∃ argument, arguments = [argument])) ∧
      (∀ place first links, tree.At place (.compare first links) → links ≠ []) ∧
      ∀ place node row builtin, tree.At place node → node.eval row ≠ .error (.argumentMissing builtin) := by
  refine ⟨parse_not_malformed text, ?_, ?_⟩
  · intro found lexed lexeme offset member
    have shaped := Lexer.float_token_shaped lexed (List.mem_map_of_mem member)
    exact ⟨shaped, Lexer.float_text_reads shaped⟩
  · intro tree parsed
    obtain ⟨body, derived⟩ := parsed_derives parsed
    have formed := phrase_well_formed derived
    refine ⟨?_, ?_, ?_⟩
    · intro place builtin arguments inside
      have admitted : builtin.admits arguments.length = true := formed place _ inside
      exact ⟨admitted, fun single => Expr.single_argument single admitted⟩
    · intro place first links inside
      exact formed place _ inside
    · intro place node row builtin inside
      exact Expr.well_formed_not_missing (formed.node inside) row builtin

/-- `len(name) < 8` -/
def shortName : Expr :=
  .compare (.call .length [.field "name"]) [(.less, .literal (.integer 8))]

theorem short_name_parsed : parse "len(name) < 8" = .ok shortName := by
  have lexed : tokens "len(name) < 8".toList = .ok [⟨.word "len", 0⟩, ⟨.openParen, 3⟩, ⟨.word "name", 4⟩,
      ⟨.closeParen, 8⟩, ⟨.less, 10⟩, ⟨.integer 8, 12⟩, ⟨.ending, 13⟩] := by decide +kernel
  rw [parse, lexed]
  rfl

theorem short_name_never_malformed :
    (tokens "-.5e-3".toList = .ok [⟨.minus, 0⟩, ⟨.float ".5e-3", 1⟩, ⟨.ending, 6⟩] ∧
      Lexer.FloatText ".5e-3".toList ∧ (Binary64.read? ".5e-3".toList).isSome = true) ∧
    parse "len(name) < 8" = .ok shortName ∧
    (shortName.At [0] (.call .length [.field "name"]) ∧ Builtin.admits .length 1 = true ∧
      ∃ argument, [Expr.field "name"] = [argument]) ∧
    [(Comparison.less, Expr.literal (.integer 8))] ≠ [] ∧
    ∀ row, shortName.eval row ≠ .error (.argumentMissing .length) := by
  have lexed : tokens "-.5e-3".toList = .ok [⟨.minus, 0⟩, ⟨.float ".5e-3", 1⟩, ⟨.ending, 6⟩] := by
    decide +kernel
  have length : shortName.At [0] (.call .length [.field "name"]) := .inside rfl (.root _)
  obtain ⟨-, floats, -⟩ := parsed_never_malformed "-.5e-3"
  obtain ⟨-, -, trees⟩ := parsed_never_malformed "len(name) < 8"
  obtain ⟨calls, comparisons, present⟩ := trees shortName short_name_parsed
  obtain ⟨admitted, single⟩ := calls _ _ _ length
  exact ⟨⟨lexed, floats _ lexed ".5e-3" 1 (by simp)⟩, short_name_parsed,
    ⟨length, admitted, single nofun⟩, comparisons _ _ _ (.root _),
    fun row => present [] shortName row .length (.root _)⟩

end QueryCheck.Condition

import Mathlib.Data.List.Induction
import Mathlib.Data.List.Nodup
import QueryCheck.Condition.Expression

/-!
# The parts of an expression

Every expression stands above its parts, and what is inside it has a place, given by the numbers of the
parts on the way down. The fields of an expression are the names of the field nodes inside it, once
each, in the order of their first use.
-/

namespace QueryCheck.Condition.Expr

set_option autoImplicit false

def parts : Expr → List Expr
  | literal _ => []
  | field _ => []
  | list items => items
  | neg operand => [operand]
  | not operand => [operand]
  | and left right => [left, right]
  | or left right => [left, right]
  | arithmetic _ left right => [left, right]
  | compare first links => first :: links.map Prod.snd
  | call _ arguments => arguments

theorem parts_induction {motive : Expr → Prop}
    (step : ∀ e : Expr, (∀ part ∈ e.parts, motive part) → motive e) (e : Expr) : motive e := by
  refine mentions.induct motive (fun links => ∀ part ∈ links.map Prod.snd, motive part)
    (fun items => ∀ part ∈ items, motive part)
    ?literal ?field ?list ?neg ?not ?and ?or ?arithmetic ?compare ?call ?noItems ?items ?noLinks
    ?links e
  case literal => exact fun value => step (.literal value) (List.forall_mem_nil _)
  case field => exact fun name => step (.field name) (List.forall_mem_nil _)
  case list => exact fun items each => step (.list items) each
  case neg => exact fun operand one => step (.neg operand) (by simpa [parts] using one)
  case not => exact fun operand one => step (.not operand) (by simpa [parts] using one)
  case and => exact fun left right one other => step (.and left right) (by simp [parts, one, other])
  case or => exact fun left right one other => step (.or left right) (by simp [parts, one, other])
  case arithmetic =>
    exact fun op left right one other => step (.arithmetic op left right) (by simp [parts, one, other])
  case compare =>
    exact fun first links one each =>
      step (.compare first links) (List.forall_mem_cons.mpr ⟨one, each⟩)
  case call => exact fun builtin arguments each => step (.call builtin arguments) each
  case noItems => exact List.forall_mem_nil _
  case items => exact fun item rest one each => List.forall_mem_cons.mpr ⟨one, each⟩
  case noLinks => exact List.forall_mem_nil _
  case links => exact fun op operand rest one each => List.forall_mem_cons.mpr ⟨one, each⟩

theorem mentions_all_eq (items : List Expr) : mentionsAll items = items.flatMap mentions := by
  induction items with
  | nil => rfl
  | cons item rest induction => rw [mentionsAll, induction, List.flatMap_cons]

theorem mentions_links_eq (links : List (Comparison × Expr)) :
    mentionsLinks links = (links.map Prod.snd).flatMap mentions := by
  induction links with
  | nil => rfl
  | cons link rest induction => rw [mentionsLinks, induction, List.map_cons, List.flatMap_cons]

theorem mentions_parts {e : Expr} (inner : ∀ name, e ≠ field name) :
    e.mentions = e.parts.flatMap mentions := by
  cases e with
  | field name => exact absurd rfl (inner name)
  | list items => exact mentions_all_eq items
  | call builtin arguments => exact mentions_all_eq arguments
  | compare first links => rw [mentions, mentions_links_eq, parts, List.flatMap_cons]
  | _ => simp [mentions, parts]

/-- An expression is found in another at a place: the number of the part on every level. -/
inductive At : Expr → List Nat → Expr → Prop where
  | root (e : Expr) : At e [] e
  | inside {e part found : Expr} {number : Nat} {place : List Nat}
      (numbered : e.parts[number]? = some part) (below : At part place found) :
      At e (number :: place) found

def Uses (e : Expr) (place : List Nat) (name : String) : Prop :=
  e.At place (.field name)

theorem uses_field (column name : String) (place : List Nat) :
    (field column).Uses place name ↔ place = [] ∧ name = column := by
  constructor
  · intro use
    cases use with
    | root => exact ⟨rfl, rfl⟩
    | inside numbered below => cases numbered
  · rintro ⟨rfl, rfl⟩
    exact .root _

theorem uses_parts {e : Expr} (inner : ∀ name, e ≠ field name) (place : List Nat) (name : String) :
    e.Uses place name ↔
      ∃ number part rest, place = number :: rest ∧ e.parts[number]? = some part ∧
        part.Uses rest name := by
  constructor
  · intro use
    cases use with
    | root => exact absurd rfl (inner name)
    | inside numbered below => exact ⟨_, _, _, rfl, numbered, below⟩
  · rintro ⟨number, part, rest, rfl, numbered, below⟩
    exact .inside numbered below

/-! ## Field nodes from left to right -/

/-- Names with the places where they are used, in ascending order of the places. -/
structure Enumerates (used : List Nat → String → Prop) (names : List String)
    (uses : List (List Nat × String)) : Prop where
  names_eq : uses.map Prod.snd = names
  listed : ∀ place name, (place, name) ∈ uses ↔ used place name
  ascending : uses.Pairwise fun earlier later => earlier.1 < later.1

/-- The uses in parts that are numbered from a number on. -/
theorem enumerates_parts (parts : List Expr)
    (each : ∀ part ∈ parts, ∃ uses, Enumerates part.Uses part.mentions uses) (start : Nat) :
    ∃ uses, Enumerates (fun place name => ∃ number part rest, place = (start + number) :: rest ∧
      parts[number]? = some part ∧ part.Uses rest name) (parts.flatMap mentions) uses := by
  induction parts generalizing start with
  | nil => exact ⟨[], rfl, by simp, .nil⟩
  | cons part parts induction =>
      rw [List.forall_mem_cons] at each
      obtain ⟨first, ⟨firstNames, firstListed, firstAscending⟩⟩ := each.1
      obtain ⟨others, ⟨otherNames, otherListed, otherAscending⟩⟩ := induction each.2 (start + 1)
      refine ⟨first.map (fun use => (start :: use.1, use.2)) ++ others, ?_, ?_, ?_⟩
      · simp [firstNames, otherNames, Function.comp_def]
      · intro place name
        rw [List.mem_append, otherListed, List.mem_map]
        constructor
        · rintro (⟨⟨rest, other⟩, member, same⟩ | ⟨number, found, rest, rfl, numbered, use⟩)
          · cases same
            exact ⟨0, part, rest, rfl, rfl, (firstListed rest other).mp member⟩
          · exact ⟨number + 1, found, rest, by rw [Nat.add_right_comm, Nat.add_assoc],
              numbered, use⟩
        · rintro ⟨number, found, rest, rfl, numbered, use⟩
          cases number with
          | zero =>
              cases numbered
              exact .inl ⟨(rest, name), (firstListed rest name).mpr use, rfl⟩
          | succ number =>
              exact .inr ⟨number, found, rest, by rw [Nat.add_right_comm, Nat.add_assoc],
                numbered, use⟩
      · rw [List.pairwise_append, List.pairwise_map]
        refine ⟨firstAscending.imp ?_, otherAscending, ?_⟩
        · intro earlier later before
          exact List.Lex.cons before
        · intro earlier fromFirst later fromOthers
          obtain ⟨use, -, rfl⟩ := List.mem_map.mp fromFirst
          obtain ⟨number, found, rest, place, -, -⟩ := (otherListed later.1 later.2).mp fromOthers
          rw [place]
          exact List.Lex.rel (by omega)

/-- The names of an expression are those of its field nodes from left to right. -/
theorem enumerates_mentions (e : Expr) : ∃ uses, Enumerates e.Uses e.mentions uses := by
  induction e using parts_induction with
  | step e each =>
      by_cases column : ∃ name, e = field name
      · obtain ⟨name, rfl⟩ := column
        refine ⟨[([], name)], rfl, ?_, List.pairwise_singleton _ _⟩
        intro place other
        rw [uses_field, List.mem_singleton, Prod.mk.injEq]
      · rw [not_exists] at column
        obtain ⟨uses, names, listed, ascending⟩ := enumerates_parts e.parts each 0
        refine ⟨uses, ?_, ?_, ascending⟩
        · rw [names, mentions_parts column]
        · intro place name
          rw [listed, uses_parts column]
          simp only [Nat.zero_add]

/-! ## First uses -/

theorem first_uses_concat (names : List String) (name : String) :
    firstUses (names ++ [name]) =
      if name ∈ firstUses names then firstUses names else firstUses names ++ [name] := by
  unfold firstUses
  rw [List.foldl_append, List.foldl_cons, List.foldl_nil]
  simp only [List.contains_iff_mem]

theorem mem_first_uses (names : List String) (name : String) :
    name ∈ firstUses names ↔ name ∈ names := by
  induction names using List.reverseRecOn with
  | nil => exact Iff.rfl
  | append_singleton names last induction =>
      rw [first_uses_concat, List.mem_append, List.mem_singleton]
      split
      · rename_i known
        constructor
        · exact fun listed => .inl (induction.mp listed)
        · rintro (member | rfl)
          · exact induction.mpr member
          · exact known
      · rw [List.mem_append, List.mem_singleton, induction]

theorem first_uses_nodup (names : List String) : (firstUses names).Nodup := by
  induction names using List.reverseRecOn with
  | nil => exact .nil
  | append_singleton names last induction =>
      rw [first_uses_concat]
      split
      · exact induction
      · rename_i fresh
        rw [← List.concat_eq_append, List.nodup_concat]
        exact ⟨fresh, induction⟩

/-- The first of the uses of one name stands before all uses of the other. -/
def StartsBefore (used : List Nat → String → Prop) (earlier later : String) : Prop :=
  ∃ place, used place earlier ∧ ∀ other, used other later → place < other

theorem starts_before_concat {uses : List (List Nat × String)} {last : List Nat × String}
    {earlier later : String} {place : List Nat} (member : (place, earlier) ∈ uses)
    (first : ∀ other, (other, later) ∈ uses → place < other) (behind : place < last.1) :
    StartsBefore (fun place name => (place, name) ∈ uses ++ [last]) earlier later := by
  refine ⟨place, List.mem_append_left _ member, ?_⟩
  intro other use
  rcases List.mem_append.mp use with old | new
  · exact first other old
  · have same : other = last.1 := congrArg Prod.fst (List.mem_singleton.mp new)
    rw [same]
    exact behind

theorem first_uses_starts (uses : List (List Nat × String))
    (ascending : uses.Pairwise fun earlier later => earlier.1 < later.1) :
    (firstUses (uses.map Prod.snd)).Pairwise
      (StartsBefore fun place name => (place, name) ∈ uses) := by
  induction uses using List.reverseRecOn with
  | nil => exact .nil
  | append_singleton uses last induction =>
      obtain ⟨before, -, crossing⟩ := List.pairwise_append.mp ascending
      have behind : ∀ place name, (place, name) ∈ uses → place < last.1 := by
        intro place name member
        exact crossing (place, name) member last (List.mem_singleton.mpr rfl)
      have known : (firstUses (uses.map Prod.snd)).Pairwise
          (StartsBefore fun place name => (place, name) ∈ uses ++ [last]) := by
        refine (induction before).imp ?_
        rintro earlier later ⟨place, member, first⟩
        exact starts_before_concat member first (behind place earlier member)
      rw [List.map_append, List.map_singleton, first_uses_concat]
      split
      · exact known
      · rename_i fresh
        rw [mem_first_uses] at fresh
        refine List.pairwise_append.mpr ⟨known, List.pairwise_singleton _ _, ?_⟩
        intro earlier listed later new
        rw [List.mem_singleton] at new
        subst new
        rw [mem_first_uses] at listed
        obtain ⟨use, member, rfl⟩ := List.mem_map.mp listed
        -- The name is new: none of the uses so far is one of it.
        refine starts_before_concat member ?_ (behind use.1 use.2 member)
        intro other old
        exact absurd (List.mem_map.mpr ⟨_, old, rfl⟩) fresh

theorem fields_ascending (e : Expr) : e.fields.Pairwise (StartsBefore e.Uses) := by
  obtain ⟨uses, names, listed, ascending⟩ := enumerates_mentions e
  have same : (fun place name => (place, name) ∈ uses) = e.Uses :=
    funext fun place => funext fun name => propext (listed place name)
  rw [fields, ← names, ← same]
  exact first_uses_starts uses ascending

theorem mem_fields (e : Expr) (name : String) : name ∈ e.fields ↔ ∃ place, e.Uses place name := by
  obtain ⟨uses, names, listed, -⟩ := enumerates_mentions e
  rw [fields, mem_first_uses, ← names, List.mem_map]
  constructor
  · rintro ⟨use, member, rfl⟩
    exact ⟨use.1, (listed use.1 use.2).mp member⟩
  · rintro ⟨place, use⟩
    exact ⟨(place, name), (listed place name).mpr use, rfl⟩

end QueryCheck.Condition.Expr

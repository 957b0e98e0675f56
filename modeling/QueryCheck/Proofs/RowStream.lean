import QueryCheck.Proofs.Except
import QueryCheck.Verification

/-!
# The stream of a row source

What a source hands out from a state on is a list, and checking the source is checking that list: the
steps that bound the loop are never used up before the source has ended.
-/

namespace QueryCheck

set_option autoImplicit false

variable {σ : Type}

namespace RowSource

/-- The elements that a source hands out from a state on, up to its end. -/
def items (source : RowSource σ) (s : σ) : List (Except QueryError Row) :=
  match _ : source.next s with
  | (none, _) => []
  | (some item, rest) => item :: source.items rest
termination_by source.bound s
decreasing_by exact source.bound_next s item rest (by assumption)

theorem items_of_end (source : RowSource σ) (s rest : σ) (ended : source.next s = (none, rest)) :
    source.items s = [] := by
  rw [items]
  split
  · rfl
  · rename_i item after taken
    rw [ended] at taken
    cases taken

theorem items_of_next (source : RowSource σ) (s rest : σ) (item : Except QueryError Row)
    (taken : source.next s = (some item, rest)) :
    source.items s = item :: source.items rest := by
  rw [items]
  split
  · rename_i after ended
    rw [taken] at ended
    cases ended
  · rename_i other after same
    rw [taken] at same
    cases same
    rfl

theorem items_of_list (elements : List (Except QueryError Row)) :
    ofList.items elements = elements := by
  induction elements with
  | nil => exact items_of_end ofList [] [] rfl
  | cons item rest induction =>
      rw [items_of_next ofList (item :: rest) rest item rfl, induction]

end RowSource

namespace Verification

/-- The outcomes of listed rows from the given number on, up to the first error. -/
def checkItems (spec : Specification) :
    Nat → List (Except QueryError Row) → Except VerifyError (List RowOutcome)
  | _, [] => .ok []
  | index, .error e :: _ => .error (.rows index e)
  | index, .ok row :: rest => do
    let outcome ← checkRow spec index row
    let others ← checkItems spec (index + 1) rest
    .ok (outcome :: others)

theorem check_from_items (spec : Specification) (source : RowSource σ) (steps index : Nat) (s : σ)
    (enough : source.bound s < steps) :
    (checkFrom spec source steps index s).1 = checkItems spec index (source.items s) := by
  induction steps generalizing index s with
  | zero => omega
  | succ steps induction =>
      unfold checkFrom
      match taken : source.next s with
      | (none, rest) =>
          rw [source.items_of_end s rest taken]
          rfl
      | (some (.error e), rest) =>
          rw [source.items_of_next s rest _ taken]
          rfl
      | (some (.ok row), rest) =>
          -- The bound falls with every row, so a step is left until the source itself has ended.
          have smaller := source.bound_next s _ rest taken
          have others := induction (index + 1) rest (by omega)
          rw [source.items_of_next s rest _ taken, checkItems]
          dsimp only
          cases checked : checkRow spec index row with
          | error e => rfl
          | ok outcome =>
              rw [← others]
              dsimp only [bind, Except.bind]
              split <;> rename_i remaining <;> rw [remaining]

end Verification

theorem verify_items (spec : Specification) (source : RowSource σ) (s : σ) :
    (verify spec source s).1 =
      (Verification.checkItems spec 0 (source.items s)).map (Verification.ofOutcomes spec) := by
  unfold verify
  rw [← Verification.check_from_items spec source (source.bound s + 1) 0 s (Nat.lt_succ_self _)]
  split <;> rename_i checked <;> rw [checked] <;> rfl

end QueryCheck

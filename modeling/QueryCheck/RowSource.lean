import QueryCheck.QueryError
import QueryCheck.Value

/-!
# Rows one at a time

A source hands out a row, an error, or nothing more, and changes its state as it does. Every state bounds
how many rows and errors are still to come, so taking them all comes to an end.
-/

namespace QueryCheck

structure RowSource (σ : Type) where
  next : σ → Option (Except QueryError Row) × σ
  bound : σ → Nat
  bound_next : ∀ s item rest, next s = (some item, rest) → bound rest < bound s

namespace RowSource

def nextOfList : List (Except QueryError Row) →
    Option (Except QueryError Row) × List (Except QueryError Row)
  | [] => (none, [])
  | item :: rest => (some item, rest)

def ofList : RowSource (List (Except QueryError Row)) where
  next := nextOfList
  bound := List.length
  bound_next := by
    intro items item rest taken
    cases items with
    | nil => simp [nextOfList] at taken
    | cons first others =>
      simp only [nextOfList, Prod.mk.injEq, Option.some.injEq] at taken
      simp [← taken.2]

end RowSource

end QueryCheck

import Mathlib.Algebra.Order.Field.Rat
import Mathlib.Algebra.Order.Ring.Abs
import Mathlib.Algebra.Order.Ring.Cast
import Mathlib.Tactic.Abel
import Mathlib.Tactic.NormNum

/-!
# Floored remainders

The remainder of a division that lies between zero and the divisor. Any other remainder that is smaller
than the divisor lies on the other side of zero, and adding the divisor once brings it over.
-/

namespace QueryCheck

set_option autoImplicit false

variable {α : Type} [Ring α] [LinearOrder α] [IsStrictOrderedRing α]

/-- What whole multiples of the divisor leave of the dividend, on the divisor's side of zero -/
structure FlooredRemainder (dividend divisor rest : α) : Prop where
  multiple : ∃ quotient : ℤ, dividend - rest = quotient * divisor
  range : 0 ≤ rest ∧ rest < divisor ∨ divisor < rest ∧ rest ≤ 0

namespace FlooredRemainder

variable {dividend divisor rest other : α}

theorem abs_lt (floored : FlooredRemainder dividend divisor rest) : |rest| < |divisor| := by
  rcases floored.range with ⟨lower, upper⟩ | ⟨lower, upper⟩
  · rwa [abs_of_nonneg lower, abs_of_nonneg (lower.trans upper.le)]
  · rwa [abs_of_nonpos upper, abs_of_nonpos (lower.le.trans upper), neg_lt_neg_iff]

theorem divisor_ne_zero (floored : FlooredRemainder dividend divisor rest) : divisor ≠ 0 :=
  abs_pos.mp ((abs_nonneg rest).trans_lt floored.abs_lt)

theorem apart_lt (first : FlooredRemainder dividend divisor rest)
    (second : FlooredRemainder dividend divisor other) : |rest - other| < |divisor| := by
  rcases first.range with ⟨lower, upper⟩ | ⟨lower, upper⟩ <;>
    rcases second.range with ⟨otherLower, otherUpper⟩ | ⟨otherLower, otherUpper⟩
  · rw [abs_of_nonneg (lower.trans upper.le)]
    exact abs_sub_lt_of_nonneg_of_lt lower upper otherLower otherUpper
  · exact absurd (otherLower.trans_le otherUpper) (lower.trans upper.le).not_gt
  · exact absurd (lower.trans_le upper) (otherLower.trans otherUpper.le).not_gt
  · rw [abs_of_nonpos (lower.le.trans upper), abs_sub_comm, ← neg_sub_neg]
    exact abs_sub_lt_of_nonneg_of_lt (neg_nonneg.mpr upper) (neg_lt_neg lower)
      (neg_nonneg.mpr otherUpper) (neg_lt_neg otherLower)

theorem unique (first : FlooredRemainder dividend divisor rest)
    (second : FlooredRemainder dividend divisor other) : rest = other := by
  obtain ⟨quotient, whole⟩ := first.multiple
  obtain ⟨otherQuotient, otherWhole⟩ := second.multiple
  have difference : rest - other = ((otherQuotient - quotient : ℤ) : α) * divisor := by
    rw [Int.cast_sub, sub_mul, ← whole, ← otherWhole]
    abel
  have small := first.apart_lt second
  rw [difference, abs_mul, mul_lt_iff_lt_one_left (abs_pos.mpr first.divisor_ne_zero), ← Int.cast_abs,
    ← Int.cast_one, Int.cast_lt, Int.abs_lt_one_iff] at small
  rw [← sub_eq_zero, difference, small, Int.cast_zero, zero_mul]

theorem cast {a b r : ℤ} (floored : FlooredRemainder a b r) :
    FlooredRemainder (a : α) (b : α) (r : α) where
  multiple := by
    obtain ⟨quotient, whole⟩ := floored.multiple
    exact ⟨quotient, by exact_mod_cast whole⟩
  range := by exact_mod_cast floored.range

/-- The remainder brought to the side of the divisor -/
theorem of_smaller (multiple : ∃ quotient : ℤ, dividend - rest = quotient * divisor)
    (smaller : |rest| < |divisor|) :
    FlooredRemainder dividend divisor
      (if rest ≠ 0 ∧ (rest < 0 ↔ ¬divisor < 0) then rest + divisor else rest) := by
  obtain ⟨quotient, whole⟩ := multiple
  split
  · rename_i across
    obtain ⟨nonzero, opposite⟩ := across
    refine ⟨⟨quotient - 1, ?_⟩, ?_⟩
    · rw [← sub_sub, whole, Int.cast_sub, Int.cast_one, sub_mul, one_mul]
    · rcases lt_or_gt_of_ne nonzero with below | above
      · have positive : 0 ≤ divisor := not_lt.mp (opposite.mp below)
        rw [abs_of_neg below, abs_of_nonneg positive] at smaller
        exact .inl ⟨(neg_le_iff_add_nonneg'.mp smaller.le), add_lt_of_neg_left divisor below⟩
      · have negative : divisor < 0 := not_not.mp fun side => above.asymm (opposite.mpr side)
        rw [abs_of_pos above, abs_of_neg negative] at smaller
        exact .inr ⟨lt_add_of_pos_left divisor above, (lt_neg_iff_add_neg.mp smaller).le⟩
  · rename_i along
    refine ⟨⟨quotient, whole⟩, ?_⟩
    rcases lt_trichotomy rest 0 with below | rfl | above
    · have negative : divisor < 0 :=
        not_not.mp fun side => along ⟨below.ne, iff_of_true below side⟩
      rw [abs_of_neg below, abs_of_neg negative, neg_lt_neg_iff] at smaller
      exact .inr ⟨smaller, below.le⟩
    · rw [abs_zero, abs_pos] at smaller
      exact (lt_or_gt_of_ne smaller).symm.imp (fun positive => ⟨le_rfl, positive⟩)
        fun negative => ⟨negative, le_rfl⟩
    · have positive : 0 ≤ divisor :=
        not_lt.mp fun side => along ⟨above.ne', iff_of_false above.not_gt (not_not.mpr side)⟩
      rw [abs_of_pos above, abs_of_nonneg positive] at smaller
      exact .inl ⟨above.le, smaller⟩

end FlooredRemainder

end QueryCheck

import QueryCheck.Proofs.Number.DecimalArithmetic
import QueryCheck.Proofs.Number.FlooredRemainder
import QueryCheck.Value.Arithmetic

/-!
# Remainders of decimals

The remainder of two exact numbers, one of them a decimal, is the floored remainder where some decimal
holds it. Elsewhere it is rounded as sums are, and may then reach the divisor.
-/

namespace QueryCheck

set_option autoImplicit false

namespace Decimal

theorem Rounded.side_of_divisor {dividend divisor exact : ℚ} {r : Decimal} (rounded : Rounded exact r)
    (floored : FlooredRemainder dividend divisor exact) :
    r.value = 0 ∨ (0 < r.value ↔ 0 < divisor) := by
  have side := rounded.side
  rcases floored.range with ⟨lower, upper⟩ | ⟨lower, upper⟩
  · rcases lower.lt_or_eq with above | zero
    · have known : 0 ≤ r.value := nonneg_of_mul_nonneg_left side above
      exact known.eq_or_lt.imp Eq.symm fun positive => iff_of_true positive (above.trans upper)
    · exact .inl ((rounded.exact_of_held ⟨Decimal.zero, value_zero.trans zero⟩).trans zero.symm)
  · rcases upper.lt_or_eq with below | zero
    · have known : r.value ≤ 0 := nonpos_of_mul_nonneg_left side below
      exact .inr (iff_of_false known.not_gt (lower.trans below).asymm)
    · exact .inl ((rounded.exact_of_held ⟨Decimal.zero, value_zero.trans zero.symm⟩).trans zero)

end Decimal

namespace Value

open Condition (Arithmetic)
open Decimal (Rounded)

/-- The remainder and the divisor lie on different sides of zero. -/
theorem across_iff {rest b : Decimal} (nonzero : b.value ≠ 0) :
    (!rest.isZero && rest.negative != b.negative) = true ↔
      rest.value ≠ 0 ∧ (rest.value < 0 ↔ ¬b.value < 0) := by
  rw [Bool.and_eq_true, Bool.not_eq_true', Decimal.not_zero_iff, bne_iff_ne]
  refine and_congr_right fun left => ?_
  rw [Decimal.value_neg_iff left, Decimal.value_neg_iff nonzero]
  cases rest.negative <;> cases b.negative <;> decide

theorem correction_fits {a b rest : Decimal} (nonzero : b.value ≠ 0)
    (known : a.truncatedRemainder b = some rest)
    (across : (!rest.isZero && rest.negative != b.negative) = true) :
    FlooredRemainder a.value b.value (rest.value + b.value) ∧
      ∃ r, rest.add b = some r ∧ |r.value| ≤ |b.value| ∧ Rounded (rest.value + b.value) r := by
  obtain ⟨other, same, multiple, smaller⟩ := Decimal.truncated_remainder_exact a nonzero
  obtain rfl : other = rest := Option.some.inj (same.symm.trans known)
  have floored := FlooredRemainder.of_smaller multiple smaller
  rw [if_pos ((across_iff nonzero).mp across)] at floored
  -- The sum is the floored remainder, so that the divisor is a decimal that bounds it.
  exact ⟨floored, Decimal.add_rounded floored.abs_lt.le⟩

theorem decimal_mod_rounded (a : Decimal) {b : Decimal} (nonzero : b.value ≠ 0) :
    ∃ r exact, decimalMod a b = some r ∧ FlooredRemainder a.value b.value exact ∧
      |r.value| ≤ |b.value| ∧ Rounded exact r := by
  obtain ⟨rest, known, multiple, smaller⟩ := Decimal.truncated_remainder_exact a nonzero
  rw [decimalMod, known, Option.bind_some]
  by_cases across : (!rest.isZero && rest.negative != b.negative) = true
  · obtain ⟨floored, r, sum, bounded, rounded⟩ := correction_fits nonzero known across
    rw [if_pos across]
    exact ⟨r, _, sum, floored, bounded, rounded⟩
  · have floored := FlooredRemainder.of_smaller multiple smaller
    rw [if_neg fun other => across ((across_iff nonzero).mpr other)] at floored
    rw [if_neg across]
    exact ⟨rest, _, rfl, floored, smaller.le, Decimal.rounded_self rest⟩

/-- Exact numbers that are not both whole are decimals to the operations. -/
theorem arithmetic_of_decimals {left right : Value} {a b : Decimal} (op : Arithmetic)
    (first : left.toDecimal? = some a) (second : right.toDecimal? = some b)
    (mixed : left.kind = .numeric ∨ right.kind = .numeric) :
    arithmetic op left right = decimalArithmetic op a b := by
  cases left with
  | int64 m =>
      cases first
      cases right with
      | int64 n => exact absurd mixed (or_self_iff.not.mpr nofun)
      | numeric e =>
          cases second
          rfl
      | _ => cases second
  | numeric d =>
      cases first
      cases right <;> cases second <;> rfl
  | _ => cases first

/-- The remainder of two exact numbers by one that is not zero, at least one being a decimal: it is zero
or has the sign of the divisor, which it does not exceed. It is the floored remainder if and only if some
decimal is; elsewhere it is the floored remainder rounded to as many places as fit. -/
theorem remainders_are_rounded {left right : Value} {a b : Decimal}
    (dividend : left.toDecimal? = some a) (divisor : right.toDecimal? = some b)
    (mixed : left.kind = .numeric ∨ right.kind = .numeric) (nonzero : b.value ≠ 0) :
    ∃ r exact, Value.arithmetic .mod left right = .ok (numeric r) ∧
      (∀ rest, a.truncatedRemainder b = some rest → rest.isZero = false →
        rest.negative ≠ b.negative → ∃ sum, rest.add b = some sum) ∧
      (r.value = 0 ∨ (0 < r.value ↔ 0 < b.value)) ∧ |r.value| ≤ |b.value| ∧
      FlooredRemainder a.value b.value exact ∧ Rounded exact r ∧
      (FlooredRemainder a.value b.value r.value ↔ ∃ d : Decimal, d.value = exact) := by
  obtain ⟨r, exact, known, floored, bounded, rounded⟩ := decimal_mod_rounded a nonzero
  refine ⟨r, exact, ?_, ?_, rounded.side_of_divisor floored, bounded, floored, rounded, ?_, ?_⟩
  · rw [arithmetic_of_decimals .mod dividend divisor mixed]
    rw [decimalArithmetic, if_neg (by rwa [Decimal.is_zero_iff]), known, checked_some]
  · intro rest remainder notZero across
    have condition : (!rest.isZero && rest.negative != b.negative) = true := by
      rw [notZero, Bool.not_false, Bool.true_and, bne_iff_ne]
      exact across
    obtain ⟨-, sum, added, -⟩ := correction_fits nonzero remainder condition
    exact ⟨sum, added⟩
  · intro result
    exact ⟨r, result.unique floored⟩
  · intro held
    rw [rounded.exact_of_held held]
    exact floored

def twoAndHalf : Decimal := ⟨false, 2500, 3, by decide, by decide⟩

theorem seven_below_is_rounded :
    (int64 (-7)).toDecimal? = some (.ofInt64 (-7)) ∧ (numeric twoAndHalf).toDecimal? = some twoAndHalf ∧
      (numeric twoAndHalf).kind = .numeric ∧ twoAndHalf.value ≠ 0 ∧
      ∃ r exact, Value.arithmetic .mod (int64 (-7)) (numeric twoAndHalf) = .ok (numeric r) ∧
        |r.value| ≤ |twoAndHalf.value| ∧
        FlooredRemainder (Decimal.ofInt64 (-7)).value twoAndHalf.value exact ∧ Rounded exact r := by
  have nonzero : twoAndHalf.value ≠ 0 := by
    rw [← Decimal.not_zero_iff]
    rfl
  obtain ⟨r, exact, known, -, -, bounded, floored, rounded, -⟩ :=
    @remainders_are_rounded (int64 (-7)) (numeric twoAndHalf) _ _ rfl rfl (.inr rfl) nonzero
  exact ⟨rfl, rfl, rfl, nonzero, r, exact, known, bounded, floored, rounded⟩

/-- The least positive decimal, negated -/
def leastNegative : Decimal := ⟨true, 1, 28, by decide, by decide⟩

/-- The exact remainder by ten has a place more than 96 bits hold, and it is rounded to ten. -/
theorem tiny_remainder_reaches_divisor :
    ∃ r : Decimal, Value.arithmetic .mod (numeric leastNegative) (int64 10) = .ok (numeric r) ∧
      ¬|r.value| < |(Decimal.ofInt64 10).value| ∧
      ¬∃ k : ℤ, leastNegative.value - r.value = k * (Decimal.ofInt64 10).value := by
  have ten : (Decimal.ofInt64 10).value = 10 := Decimal.value_of_int64 10
  have tiny : leastNegative.value = -1 / 10 ^ 28 := by
    rw [Decimal.value, leastNegative, Decimal.signed, if_pos rfl, Nat.cast_one, Int.cast_neg, Int.cast_one]
  refine ⟨⟨false, 10000000000000000000000000000, 27, by decide, by decide⟩, rfl, ?_, ?_⟩
  · rw [ten, Decimal.abs_value]
    norm_num
  · rintro ⟨k, whole⟩
    rw [ten, tiny, Decimal.value_eq_quotient, Decimal.quotient, Decimal.sign] at whole
    have scaled : -1 - (10 : ℚ) ^ 29 = k * 10 ^ 29 := by
      norm_num at whole ⊢
      linarith
    have integers : -1 - (10 : ℤ) ^ 29 = k * 10 ^ 29 := by exact_mod_cast scaled
    omega

end Value

end QueryCheck

import QueryCheck.Number.Decimal.Arithmetic
import QueryCheck.Proofs.Number.Fitting

/-!
# Arithmetic of decimals

Sums, differences and products are exact where some decimal holds them, and a sum no larger than one of
its operands always has a decimal near it. The truncated remainder is always exact.
-/

namespace QueryCheck.Decimal

set_option autoImplicit false

theorem value_zero : zero.value = 0 :=
  zero_div _

theorem value_neg (d : Decimal) : d.neg.value = -d.value := by
  rw [value_eq_quotient, value_eq_quotient, quotient, quotient, ← neg_mul]
  congr 1
  change sign (!d.negative) = -sign d.negative
  cases d.negative with
  | false => rfl
  | true => exact (neg_neg 1).symm

theorem not_zero_iff (d : Decimal) : d.isZero = false ↔ d.value ≠ 0 := by
  rw [ne_eq, ← is_zero_iff, Bool.not_eq_true]

/-! ## Sums -/

theorem quotient_of_int (n : Int) (scale : Nat) :
    quotient (decide (n < 0)) n.natAbs scale = n / 10 ^ scale := by
  rw [quotient, sign, ← mul_div_assoc, Nat.cast_natAbs]
  rcases lt_or_ge n 0 with below | above
  · rw [if_pos (decide_eq_true below), abs_of_neg below, Int.cast_neg, neg_one_mul, neg_neg]
  · rw [if_neg (by simpa using above), abs_of_nonneg above, one_mul]

theorem signed_rescale (d : Decimal) {places : Nat} (le : d.scale ≤ places) :
    ((d.signed * Nat.pow 10 (places - d.scale) : Int) : ℚ) / 10 ^ places = d.value := by
  have split : (10 : ℚ) ^ places = 10 ^ d.scale * 10 ^ (places - d.scale) := by
    rw [← pow_add, Nat.add_sub_of_le le]
  rw [value, split, Nat.pow_eq, Int.cast_mul, Int.cast_natCast, Nat.cast_pow, Nat.cast_ofNat,
    mul_div_mul_right _ _ (unit_pos _).ne']

/-- A sum of decimals that are not zero is brought to the longer scale and fitted. -/
theorem add_eq_fit {a b : Decimal} (first : a.value ≠ 0) (second : b.value ≠ 0) :
    ∃ negative magnitude, a.add b = fit negative magnitude (max a.scale b.scale) ∧
      quotient negative magnitude (max a.scale b.scale) = a.value + b.value := by
  rw [add, if_neg (by rwa [is_zero_iff]), if_neg (by rwa [is_zero_iff])]
  refine ⟨_, _, rfl, ?_⟩
  rw [quotient_of_int, Int.cast_add, add_div, signed_rescale a (le_max_left _ _),
    signed_rescale b (le_max_right _ _)]

theorem add_of_zero_left (a b : Decimal) (zero : a.value = 0) : a.add b = some b := by
  rw [add, if_pos ((is_zero_iff a).mpr zero)]

theorem add_of_zero_right {a b : Decimal} (nonzero : a.value ≠ 0) (zero : b.value = 0) : a.add b = some a := by
  rw [add, if_neg (by rwa [is_zero_iff]), if_pos ((is_zero_iff b).mpr zero)]

theorem add_exact {a b e : Decimal} (holds : e.value = a.value + b.value) :
    ∃ d, a.add b = some d ∧ d.value = a.value + b.value := by
  by_cases first : a.value = 0
  · exact ⟨b, add_of_zero_left a b first, by rw [first, zero_add]⟩
  by_cases second : b.value = 0
  · exact ⟨a, add_of_zero_right first second, by rw [second, add_zero]⟩
  obtain ⟨negative, magnitude, fitted, sum⟩ := add_eq_fit first second
  rw [fitted, ← sum]
  exact fit_exact (by rw [holds, sum])

/-- A sum that is no larger than its second operand is rounded to no more than it. -/
theorem add_rounded {a b : Decimal} (le : |a.value + b.value| ≤ |b.value|) :
    ∃ d, a.add b = some d ∧ |d.value| ≤ |b.value| ∧ Rounded (a.value + b.value) d := by
  by_cases first : a.value = 0
  · refine ⟨b, add_of_zero_left a b first, le_rfl, ?_⟩
    rw [first, zero_add]
    exact rounded_self b
  by_cases second : b.value = 0
  · rw [second, add_zero, abs_zero, abs_nonpos_iff] at le
    exact absurd le first
  obtain ⟨negative, magnitude, fitted, sum⟩ := add_eq_fit first second
  rw [← sum] at le
  obtain ⟨d, fits, bounded⟩ := fit_le (le_max_right a.scale b.scale) le
  refine ⟨d, fitted.trans fits, bounded, ?_⟩
  rw [← sum]
  exact rounded_of_fit (max_le a.scale_le b.scale_le) fits

theorem sub_exact {a b e : Decimal} (holds : e.value = a.value - b.value) :
    ∃ d, a.sub b = some d ∧ d.value = a.value - b.value := by
  by_cases second : b.value = 0
  · rw [sub, if_pos ((is_zero_iff b).mpr second)]
    refine ⟨_, rfl, ?_⟩
    split
    · rename_i zero
      rw [(is_zero_iff a).mp zero, second, sub_zero]
    · rw [second, sub_zero]
  · rw [sub, if_neg (by rwa [is_zero_iff]), sub_eq_add_neg, ← value_neg]
    exact add_exact (by rw [holds, value_neg, sub_eq_add_neg])

/-! ## Products -/

theorem mul_eq_quotient (a b : Decimal) :
    quotient (a.negative != b.negative) (a.coefficient * b.coefficient) (a.scale + b.scale) =
      a.value * b.value := by
  have signs : sign (a.negative != b.negative) = sign a.negative * sign b.negative := by
    cases a.negative <;> cases b.negative <;> simp [sign]
  rw [value_eq_quotient a, value_eq_quotient b, quotient, quotient, quotient, signs, Nat.cast_mul,
    pow_add, mul_mul_mul_comm, div_mul_div_comm]

/-- A product of short coefficients beyond the forty-seventh place is held by no decimal. -/
theorem short_product_not_held {a b e : Decimal} (first : a.coefficient < UInt32.size)
    (second : b.coefficient < UInt32.size) (far : 47 < a.scale + b.scale)
    (nonzero : a.value * b.value ≠ 0) : e.value ≠ a.value * b.value := by
  intro holds
  have product : a.coefficient * b.coefficient < UInt32.size * UInt32.size :=
    Nat.mul_lt_mul_of_lt_of_lt first second
  have sizes := congrArg (|·|) holds
  rw [← mul_eq_quotient, abs_value, abs_quotient, div_eq_div_iff (unit_pos _).ne' (unit_pos _).ne']
    at sizes
  have cross : e.coefficient * 10 ^ (a.scale + b.scale) = a.coefficient * b.coefficient * 10 ^ e.scale := by
    exact_mod_cast sizes
  have places := e.scale_le
  rw [← pow_sub_mul_pow 10 (by omega : e.scale ≤ a.scale + b.scale), ← Nat.mul_assoc] at cross
  have whole := Nat.eq_of_mul_eq_mul_right (by positivity) cross
  have long : 10 ^ 20 ≤ 10 ^ (a.scale + b.scale - e.scale) :=
    Nat.pow_le_pow_right (by decide) (by omega)
  have positive : 0 < e.coefficient := by
    refine Nat.pos_of_ne_zero fun zero => nonzero ?_
    rw [← holds, value_eq_quotient, quotient_eq_zero_iff]
    exact zero
  have size := long.trans (Nat.le_mul_of_pos_left _ positive)
  rw [whole] at size
  exact absurd (size.trans_lt product) (by decide)

theorem mul_exact {a b e : Decimal} (holds : e.value = a.value * b.value) :
    ∃ d, a.mul b = some d ∧ d.value = a.value * b.value := by
  by_cases nonzero : a.value * b.value = 0
  · rw [mul, if_pos (by simpa [is_zero_iff] using nonzero)]
    exact ⟨zero, rfl, by rw [value_zero, nonzero]⟩
  · rw [mul, if_neg (by simpa [is_zero_iff] using nonzero), if_neg]
    · rw [← mul_eq_quotient]
      exact fit_exact (by rw [holds, mul_eq_quotient])
    · intro short
      simp only [Bool.and_eq_true, decide_eq_true_eq] at short
      exact short_product_not_held short.1.1 short.1.2 short.2 nonzero holds

/-! ## Remainders -/

theorem magnitude_lt_iff (a b : Decimal) :
    a.coefficient * Nat.pow 10 b.scale < b.coefficient * Nat.pow 10 a.scale ↔ |a.value| < |b.value| := by
  rw [abs_value, abs_value, div_lt_div_iff₀ (unit_pos _) (unit_pos _), Nat.pow_eq, Nat.pow_eq]
  norm_cast

theorem magnitude_eq_iff (a b : Decimal) :
    a.coefficient * Nat.pow 10 b.scale = b.coefficient * Nat.pow 10 a.scale ↔ |a.value| = |b.value| := by
  rw [abs_value, abs_value, div_eq_div_iff (unit_pos _).ne' (unit_pos _).ne', Nat.pow_eq, Nat.pow_eq]
  norm_cast

/-- The remainder of two coefficients brought to one scale is shorter than one of them. -/
theorem remainder_short (a b : Decimal) (nonzero : b.coefficient ≠ 0) :
    a.coefficient * 10 ^ (max a.scale b.scale - a.scale) %
      (b.coefficient * 10 ^ (max a.scale b.scale - b.scale)) < coefficientBound := by
  rcases le_total a.scale b.scale with le | le
  · rw [max_eq_right le, Nat.sub_self, Nat.pow_zero, Nat.mul_one]
    exact (Nat.mod_lt _ (Nat.pos_of_ne_zero nonzero)).trans b.coefficient_lt
  · rw [max_eq_left le, Nat.sub_self, Nat.pow_zero, Nat.mul_one]
    exact (Nat.mod_le _ _).trans_lt a.coefficient_lt

theorem quotient_mod (first second : Bool) (magnitude divisor scale : Nat) :
    ∃ k : ℤ, quotient first magnitude scale - quotient first (magnitude % divisor) scale =
      k * quotient second divisor scale := by
  have whole : (magnitude : ℚ) = divisor * (magnitude / divisor : Nat) + (magnitude % divisor : Nat) := by
    exact_mod_cast (Nat.div_add_mod magnitude divisor).symm
  have signs : ∃ k : ℤ, sign first = k * sign second := by
    cases first <;> cases second
    · exact ⟨1, by simp [sign]⟩
    · exact ⟨-1, by simp [sign]⟩
    · exact ⟨-1, by simp [sign]⟩
    · exact ⟨1, by simp [sign]⟩
  obtain ⟨k, same⟩ := signs
  refine ⟨k * (magnitude / divisor : Nat), ?_⟩
  rw [quotient, quotient, quotient, ← mul_sub, ← sub_div, whole, add_sub_cancel_right, same,
    Int.cast_mul, Int.cast_natCast]
  ring

/-- What the truncated division leaves is exact and smaller than the divisor. -/
theorem truncated_remainder_exact (a : Decimal) {b : Decimal} (nonzero : b.value ≠ 0) :
    ∃ rest, a.truncatedRemainder b = some rest ∧
      (∃ k : ℤ, a.value - rest.value = k * b.value) ∧ |rest.value| < |b.value| := by
  have digits : b.coefficient ≠ 0 := by rwa [value_eq_quotient, ne_eq, quotient_eq_zero_iff] at nonzero
  simp only [truncatedRemainder, Bool.or_eq_true, beq_iff_eq, is_zero_iff, magnitude_eq_iff,
    magnitude_lt_iff]
  split_ifs with ends less
  · refine ⟨zero, rfl, ?_, ?_⟩
    · rw [value_zero, sub_zero]
      rcases ends with zero | same
      · exact ⟨0, by rw [zero, Int.cast_zero, zero_mul]⟩
      · rcases abs_eq_abs.mp same with same | opposite
        · exact ⟨1, by rw [same, Int.cast_one, one_mul]⟩
        · exact ⟨-1, by rw [opposite, Int.cast_neg, Int.cast_one, neg_one_mul]⟩
    · rw [value_zero, abs_zero]
      exact abs_pos.mpr nonzero
  · exact ⟨a, rfl, ⟨0, by rw [sub_self, Int.cast_zero, zero_mul]⟩, less⟩
  · obtain ⟨rest, known⟩ := of_parts_some a.negative (remainder_short a b digits)
      (max_le a.scale_le b.scale_le)
    obtain ⟨-, -, value⟩ := of_parts_parts known
    refine ⟨rest, known, ?_, ?_⟩
    · rw [value, value_eq_quotient a, value_eq_quotient b, ← quotient_rescale (le_max_left a.scale b.scale),
        ← quotient_rescale (le_max_right a.scale b.scale)]
      exact quotient_mod _ _ _ _ _
    · rw [value, abs_quotient, value_eq_quotient b, ← quotient_rescale (le_max_right a.scale b.scale),
        abs_quotient, div_lt_div_iff_of_pos_right (unit_pos _)]
      exact_mod_cast Nat.mod_lt _ (by positivity)

end QueryCheck.Decimal

import Mathlib.Algebra.Order.Ring.Abs
import Mathlib.Tactic.Linarith
import Mathlib.Tactic.Positivity
import Mathlib.Tactic.Ring
import QueryCheck.Proofs.Number.Orders

/-!
# Fitting a number into a decimal

A quotient by a power of ten becomes a decimal by giving up as few places as needed. The result is exact
where some decimal holds the quotient, and elsewhere it is within half a unit of its last place.
-/

namespace QueryCheck

set_option autoImplicit false

/-! ## Rounded quotients -/

theorem round_half_even_of_dvd {numerator denominator : Nat} (positive : 0 < denominator)
    (divides : denominator ∣ numerator) :
    roundHalfEven numerator denominator * denominator = numerator := by
  have rest : numerator % denominator = 0 := Nat.mod_eq_zero_of_dvd divides
  simp only [roundHalfEven, rest, Nat.mul_zero, if_pos positive]
  exact Nat.div_mul_cancel divides

theorem round_half_even_near (numerator : Nat) {denominator : Nat} (positive : 0 < denominator) :
    2 * numerator ≤ 2 * (roundHalfEven numerator denominator * denominator) + denominator ∧
      2 * (roundHalfEven numerator denominator * denominator) ≤ 2 * numerator + denominator := by
  have whole := Nat.div_add_mod' numerator denominator
  have small := Nat.mod_lt numerator positive
  have next := Nat.add_one_mul (numerator / denominator) denominator
  simp only [roundHalfEven]
  split_ifs <;> omega

theorem round_half_even_le {numerator denominator bound : Nat} (positive : 0 < denominator)
    (le : numerator ≤ bound * denominator) : roundHalfEven numerator denominator ≤ bound := by
  have below : numerator / denominator ≤ bound := Nat.div_le_of_le_mul (Nat.mul_comm _ _ ▸ le)
  rcases below.lt_or_eq with less | same
  · simp only [roundHalfEven]
    split_ifs <;> omega
  · have whole := Nat.div_add_mod' numerator denominator
    have rest : numerator % denominator = 0 := by
      rw [same] at whole
      omega
    simp only [roundHalfEven, rest, Nat.mul_zero, if_pos positive]
    exact below

theorem first_of_range {α : Type} {f : Nat → Option α} {count i : Nat} (bound : i < count)
    (found : (f i).isSome) :
    ∃ j ≤ i, ∃ result, f j = some result ∧ (∀ k < j, f k = none) ∧
      (List.range count).findSome? f = some result := by
  have some : ∃ j, (f j).isSome := ⟨i, found⟩
  obtain ⟨result, known⟩ := Option.isSome_iff_exists.mp (Nat.find_spec some)
  have first : ∀ k < Nat.find some, f k = none := fun k less =>
    Option.not_isSome_iff_eq_none.mp (Nat.find_min some less)
  have least : Nat.find some ≤ i := Nat.find_min' some found
  refine ⟨Nat.find some, least, result, known, first, ?_⟩
  have parts : count = Nat.find some + (count - Nat.find some - 1 + 1) := by omega
  rw [parts, List.range_add, List.range_succ_eq_map, List.map_cons, List.findSome?_eq_some_iff]
  exact ⟨_, _, _, rfl, known, fun k member => first k (List.mem_range.mp member)⟩

namespace Decimal

/-! ## Signed quotients -/

def sign (negative : Bool) : ℚ :=
  if negative then -1 else 1

/-- The number `magnitude / 10 ^ scale`, negated when `negative` -/
def quotient (negative : Bool) (magnitude scale : Nat) : ℚ :=
  sign negative * (magnitude / 10 ^ scale)

theorem unit_pos (scale : Nat) : (0 : ℚ) < 10 ^ scale :=
  pow_pos (by decide) scale

theorem abs_sign (negative : Bool) : |sign negative| = 1 := by
  cases negative with
  | false => exact abs_one
  | true => exact (abs_neg 1).trans abs_one

theorem sign_mul_self (negative : Bool) : sign negative * sign negative = 1 := by
  cases negative with
  | false => exact one_mul 1
  | true => exact (neg_mul_neg 1 1).trans (one_mul 1)

theorem abs_quotient (negative : Bool) (magnitude scale : Nat) :
    |quotient negative magnitude scale| = magnitude / 10 ^ scale := by
  rw [quotient, abs_mul, abs_sign, one_mul, abs_of_nonneg (by positivity)]

theorem quotient_eq_zero_iff {negative : Bool} {magnitude scale : Nat} :
    quotient negative magnitude scale = 0 ↔ magnitude = 0 := by
  rw [← abs_eq_zero, abs_quotient, div_eq_zero_iff, or_iff_left (unit_pos scale).ne', Nat.cast_eq_zero]

/-- Further places do not change a quotient. -/
theorem quotient_extend (negative : Bool) (magnitude scale places : Nat) :
    quotient negative (magnitude * 10 ^ places) (scale + places) = quotient negative magnitude scale := by
  rw [quotient, quotient, Nat.cast_mul, Nat.cast_pow, Nat.cast_ofNat, pow_add,
    mul_div_mul_right _ _ (unit_pos places).ne']

theorem quotient_rescale {negative : Bool} {magnitude scale places : Nat} (le : scale ≤ places) :
    quotient negative (magnitude * 10 ^ (places - scale)) places = quotient negative magnitude scale := by
  conv_lhs => arg 3; rw [← Nat.add_sub_of_le le]
  exact quotient_extend negative magnitude scale (places - scale)

theorem quotient_dist (negative : Bool) (magnitude other scale : Nat) :
    |quotient negative magnitude scale - quotient negative other scale| =
      |(magnitude : ℚ) - other| / 10 ^ scale := by
  rw [quotient, quotient, ← mul_sub, abs_mul, abs_sign, one_mul, ← sub_div, abs_div,
    abs_of_pos (unit_pos scale)]

theorem value_eq_quotient (d : Decimal) : d.value = quotient d.negative d.coefficient d.scale := by
  rw [value, signed, quotient, sign]
  split
  · rw [Int.cast_neg, Int.cast_natCast, neg_one_mul, neg_div]
  · rw [Int.cast_natCast, one_mul]

theorem abs_value (d : Decimal) : |d.value| = d.coefficient / 10 ^ d.scale := by
  rw [value_eq_quotient, abs_quotient]

theorem is_zero_iff (d : Decimal) : d.isZero = true ↔ d.value = 0 := by
  rw [value_eq_quotient, quotient_eq_zero_iff, isZero, beq_iff_eq]

/-- The sign of a decimal that is not zero -/
theorem value_neg_iff {d : Decimal} (nonzero : d.value ≠ 0) : d.value < 0 ↔ d.negative = true := by
  have size : 0 < (d.coefficient : ℚ) / 10 ^ d.scale := abs_value d ▸ abs_pos.mpr nonzero
  rw [value_eq_quotient, quotient]
  cases d.negative with
  | false =>
      rw [sign, if_neg Bool.false_ne_true, one_mul]
      exact iff_of_false size.not_gt Bool.false_ne_true
  | true => exact iff_of_true (mul_neg_of_neg_of_pos (by decide) size) rfl

/-! ## Parts that fit -/

theorem of_parts_some (negative : Bool) {coefficient scale : Nat} (short : coefficient < coefficientBound)
    (places : scale ≤ 28) : ∃ d, ofParts? negative coefficient scale = some d := by
  rw [ofParts?, ofSigned?, dif_pos ⟨short, places⟩]
  exact ⟨_, rfl⟩

theorem of_parts_parts {negative : Bool} {coefficient scale : Nat} {d : Decimal}
    (fits : ofParts? negative coefficient scale = some d) :
    d.coefficient = coefficient ∧ d.scale = scale ∧
      d.value = quotient negative coefficient scale := by
  rw [ofParts?, ofSigned?] at fits
  split at fits
  · cases fits
    refine ⟨rfl, rfl, ?_⟩
    rw [value_eq_quotient]
    by_cases zero : coefficient = 0
    · rw [quotient_eq_zero_iff.mpr zero, quotient_eq_zero_iff.mpr zero]
    · rw [bne_iff_ne.mpr zero, Bool.and_true]
  · cases fits

/-- The decimal with as many of the places as fit comes from the least number of dropped ones. -/
theorem fit_first {negative : Bool} {magnitude scale dropped : Nat} (le : dropped ≤ scale)
    (short : roundHalfEven magnitude (10 ^ dropped) < coefficientBound) (places : scale - dropped ≤ 28) :
    ∃ used ≤ dropped, ∃ d,
      ofParts? negative (roundHalfEven magnitude (10 ^ used)) (scale - used) = some d ∧
      (∀ less < used,
        ofParts? negative (roundHalfEven magnitude (10 ^ less)) (scale - less) = none) ∧
      fit negative magnitude scale = some d :=
  first_of_range (Nat.lt_succ_of_le le)
    (Option.isSome_iff_exists.mpr (of_parts_some negative short places))

theorem fit_parts {negative : Bool} {magnitude scale : Nat} {d : Decimal}
    (fits : fit negative magnitude scale = some d) :
    ∃ used ≤ scale,
      ofParts? negative (roundHalfEven magnitude (10 ^ used)) (scale - used) = some d ∧
      ∀ less < used,
        ofParts? negative (roundHalfEven magnitude (10 ^ less)) (scale - less) = none := by
  obtain ⟨tried, member, found⟩ := List.exists_of_findSome?_eq_some fits
  have bound := List.mem_range.mp member
  obtain ⟨used, le, result, known, first, fitted⟩ := first_of_range
    (f := fun dropped =>
      ofParts? negative (roundHalfEven magnitude (10 ^ dropped)) (scale - dropped))
    bound (Option.isSome_iff_exists.mpr ⟨d, found⟩)
  obtain rfl : result = d := Option.some.inj (fitted.symm.trans fits)
  exact ⟨used, le.trans (Nat.le_of_lt_succ bound), known, first⟩

/-- What is left of a magnitude behind the dropped places stands for a multiple of their unit. -/
theorem value_of_dropped {negative : Bool} {magnitude scale used : Nat} {d : Decimal} (le : used ≤ scale)
    (fits : ofParts? negative (roundHalfEven magnitude (10 ^ used)) (scale - used) = some d) :
    d.value = quotient negative (roundHalfEven magnitude (10 ^ used) * 10 ^ used) scale := by
  obtain ⟨-, -, value⟩ := of_parts_parts fits
  rw [value, ← quotient_extend negative _ _ used, Nat.sub_add_cancel le]

/-! ## Exact and rounded results -/

/-- A magnitude that some decimal holds fits once the zeros at its end are dropped. -/
theorem magnitude_of_held {negative : Bool} {magnitude scale : Nat} {e : Decimal}
    (holds : |e.value| = |quotient negative magnitude scale|) :
    ∃ dropped ≤ scale, scale - dropped ≤ 28 ∧
      ∃ c < coefficientBound, magnitude = c * 10 ^ dropped := by
  have cross : e.coefficient * 10 ^ scale = magnitude * 10 ^ e.scale := by
    rw [abs_value, abs_quotient, div_eq_div_iff (unit_pos _).ne' (unit_pos _).ne'] at holds
    exact_mod_cast holds
  rcases le_total scale e.scale with le | le
  · rw [← pow_sub_mul_pow 10 le, ← Nat.mul_assoc] at cross
    have whole := Nat.eq_of_mul_eq_mul_right (by positivity) cross
    have size : magnitude ≤ e.coefficient := whole ▸ Nat.le_mul_of_pos_right _ (by positivity)
    exact ⟨0, Nat.zero_le _, le.trans e.scale_le, magnitude, size.trans_lt e.coefficient_lt,
      (Nat.mul_one _).symm⟩
  · rw [← pow_sub_mul_pow 10 le, ← Nat.mul_assoc] at cross
    have whole := Nat.eq_of_mul_eq_mul_right (by positivity) cross
    exact ⟨scale - e.scale, Nat.sub_le _ _, (Nat.sub_sub_self le).trans_le e.scale_le,
      e.coefficient, e.coefficient_lt, whole.symm⟩

theorem fit_exact {negative : Bool} {magnitude scale : Nat} {e : Decimal}
    (holds : |e.value| = |quotient negative magnitude scale|) :
    ∃ d, fit negative magnitude scale = some d ∧ d.value = quotient negative magnitude scale := by
  obtain ⟨dropped, le, places, c, short, whole⟩ := magnitude_of_held holds
  have rounded : roundHalfEven magnitude (10 ^ dropped) ≤ c :=
    round_half_even_le (by positivity) whole.le
  -- The places that are dropped may be fewer than the zeros, and what is dropped is zeros only.
  obtain ⟨used, fewer, d, known, -, fits⟩ := fit_first le (rounded.trans_lt short) places
  have divides : 10 ^ used ∣ magnitude :=
    (Nat.pow_dvd_pow 10 fewer).trans (whole ▸ Nat.dvd_mul_left _ _)
  refine ⟨d, fits, ?_⟩
  rw [value_of_dropped (fewer.trans le) known, round_half_even_of_dvd (by positivity) divides]

/-- A decimal with no more places bounds what is fitted. -/
theorem fit_le {negative : Bool} {magnitude scale : Nat} {e : Decimal} (fewer : e.scale ≤ scale)
    (le : |quotient negative magnitude scale| ≤ |e.value|) :
    ∃ d, fit negative magnitude scale = some d ∧ |d.value| ≤ |e.value| := by
  have bound : magnitude ≤ e.coefficient * 10 ^ (scale - e.scale) := by
    rw [abs_quotient, value_eq_quotient, ← quotient_rescale fewer, abs_quotient,
      div_le_div_iff_of_pos_right (unit_pos scale)] at le
    exact_mod_cast le
  -- At the scale of the bound its own coefficient is not exceeded; with more places that fit, the bound
  -- is still a multiple of the unit, so that rounding does not pass it.
  obtain ⟨used, dropped, d, known, -, fits⟩ := fit_first (Nat.sub_le scale e.scale)
    ((round_half_even_le (by positivity) bound).trans_lt e.coefficient_lt)
    ((Nat.sub_sub_self fewer).trans_le e.scale_le)
  have split : 10 ^ (scale - e.scale) = 10 ^ (scale - e.scale - used) * 10 ^ used :=
    (pow_sub_mul_pow 10 dropped).symm
  have coefficient : roundHalfEven magnitude (10 ^ used) ≤
      e.coefficient * 10 ^ (scale - e.scale - used) :=
    round_half_even_le (by positivity) (bound.trans_eq (by rw [split, Nat.mul_assoc]))
  refine ⟨d, fits, ?_⟩
  rw [value_of_dropped (dropped.trans (Nat.sub_le _ _)) known, value_eq_quotient,
    ← quotient_rescale fewer, abs_quotient, abs_quotient, div_le_div_iff_of_pos_right (unit_pos scale)]
  rw [split, ← Nat.mul_assoc]
  exact_mod_cast Nat.mul_le_mul_right (10 ^ used) coefficient

/-- The decimal is the number, rounded to as many places as fit where no decimal is exact. -/
structure Rounded (exact : ℚ) (d : Decimal) : Prop where
  near : 2 * |d.value - exact| ≤ 1 / 10 ^ d.scale
  full : d.value ≠ exact → (coefficientBound : ℚ) ≤ |exact| * 10 ^ (d.scale + 1) + 1 / 2
  side : 0 ≤ d.value * exact
  exact_of_held : (∃ e : Decimal, e.value = exact) → d.value = exact

theorem rounded_self (d : Decimal) : Rounded d.value d where
  near := by
    rw [sub_self, abs_zero, mul_zero]
    exact one_div_nonneg.mpr (unit_pos d.scale).le
  full := fun differs => absurd rfl differs
  side := mul_self_nonneg d.value
  exact_of_held := fun _ => rfl

/-- A rounded magnitude is within half a unit of the last place that is kept. -/
theorem rounded_near (negative : Bool) (magnitude places used : Nat) :
    2 * |quotient negative (roundHalfEven magnitude (10 ^ used) * 10 ^ used) (places + used) -
      quotient negative magnitude (places + used)| ≤ 1 / 10 ^ places := by
  obtain ⟨lower, upper⟩ := round_half_even_near magnitude (Nat.pow_pos (n := used) (by decide : 0 < 10))
  generalize roundHalfEven magnitude (10 ^ used) * 10 ^ used = near at lower upper
  have half : |2 * ((near : ℚ) - magnitude)| ≤ 10 ^ used := by
    rw [abs_le]
    constructor
    · have bound : (2 * magnitude : ℚ) ≤ 2 * near + 10 ^ used := by exact_mod_cast lower
      linarith
    · have bound : (2 * near : ℚ) ≤ 2 * magnitude + 10 ^ used := by exact_mod_cast upper
      linarith
  rw [abs_mul, abs_two] at half
  rw [quotient_dist, pow_add, ← mul_div_assoc, div_le_div_iff₀ (by positivity) (unit_pos places), one_mul,
    mul_comm (10 ^ places)]
  exact mul_le_mul_of_nonneg_right half (unit_pos places).le

/-- A magnitude that is too long at one more place nearly fills the coefficient there. -/
theorem rounded_full {negative : Bool} {magnitude places used bound : Nat}
    (long : bound ≤ roundHalfEven magnitude (10 ^ used)) :
    (bound : ℚ) ≤ |quotient negative magnitude (places + used)| * 10 ^ places + 1 / 2 := by
  obtain ⟨-, upper⟩ := round_half_even_near magnitude (Nat.pow_pos (n := used) (by decide : 0 < 10))
  have filled : 2 * (bound * 10 ^ used) ≤ 2 * magnitude + 10 ^ used :=
    (Nat.mul_le_mul_left 2 (Nat.mul_le_mul_right (10 ^ used) long)).trans upper
  have cast : 2 * ((bound : ℚ) * 10 ^ used) ≤ 2 * magnitude + 10 ^ used := by
    exact_mod_cast filled
  rw [abs_quotient, pow_add, mul_comm (10 ^ places), ← div_div,
    div_mul_cancel₀ _ (unit_pos places).ne', div_add' _ _ _ (unit_pos used).ne', le_div_iff₀ (unit_pos used)]
  linarith

theorem rounded_of_fit {negative : Bool} {magnitude scale : Nat} {d : Decimal} (places : scale ≤ 28)
    (fits : fit negative magnitude scale = some d) : Rounded (quotient negative magnitude scale) d := by
  obtain ⟨used, le, known, first⟩ := fit_parts fits
  have value := value_of_dropped le known
  obtain ⟨-, kept, -⟩ := of_parts_parts known
  obtain rfl : scale = d.scale + used := by omega
  refine ⟨?near, ?full, ?side, ?held⟩
  case near =>
    rw [value]
    exact rounded_near negative magnitude d.scale used
  case full =>
    intro inexact
    cases used with
    | zero =>
        have whole : roundHalfEven magnitude (10 ^ 0) * 10 ^ 0 = magnitude :=
          round_half_even_of_dvd (by decide) (Nat.one_dvd magnitude)
        rw [value, whole] at inexact
        exact absurd rfl inexact
    | succ less =>
        have long : coefficientBound ≤ roundHalfEven magnitude (10 ^ less) := by
          by_contra short
          obtain ⟨e, fitted⟩ := of_parts_some negative (not_le.mp short)
            ((Nat.sub_le _ less).trans places)
          exact Option.some_ne_none e (fitted.symm.trans (first less (Nat.lt_succ_self less)))
        have shift : d.scale + (less + 1) = d.scale + 1 + less := by omega
        rw [shift]
        exact rounded_full long
  case side =>
    rw [value, quotient, quotient, mul_mul_mul_comm, sign_mul_self, one_mul]
    positivity
  case held =>
    rintro ⟨e, holds⟩
    obtain ⟨other, fitted, same⟩ := fit_exact (e := e) (by rw [holds])
    rw [Option.some.inj (fitted.symm.trans fits)] at same
    exact same

end Decimal

end QueryCheck

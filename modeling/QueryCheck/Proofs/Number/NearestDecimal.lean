import QueryCheck.Proofs.Number.DecimalArithmetic

/-!
# Nearest decimals

The decimal that is nearest to a number among those with as many places as fit, a half going away from
zero. It is the number itself where some decimal is, and only a number that is too large has none.
-/

namespace QueryCheck.Decimal

set_option autoImplicit false

/-- The decimal is the number, rounded to as many places as 28 places and 96 bits allow. -/
structure Nearest (exact : ℚ) (d : Decimal) : Prop where
  near : 2 * |d.value - exact| ≤ 1 / 10 ^ d.scale
  away : 2 * |d.value - exact| = 1 / 10 ^ d.scale → |exact| < |d.value|
  full : d.value ≠ exact →
    d.scale = 28 ∨ (coefficientBound : ℚ) ≤ |exact| * 10 ^ (d.scale + 1) + 1 / 2

/-- What reading a number gives: the nearest decimal, or none for a number that even without places
would be rounded to more than 96 bits. -/
def ReadAs (exact : ℚ) : Option Decimal → Prop
  | some d => Nearest exact d
  | none => (coefficientBound : ℚ) - 1 / 2 ≤ |exact|

theorem nearest_of_value {exact : ℚ} {d : Decimal} (same : d.value = exact) : Nearest exact d where
  near := by
    rw [same, sub_self, abs_zero, mul_zero]
    exact one_div_nonneg.mpr (unit_pos d.scale).le
  away := by
    intro half
    rw [same, sub_self, abs_zero, mul_zero] at half
    exact absurd half (one_div_pos.mpr (unit_pos d.scale)).ne
  full := fun differs => absurd same differs

theorem scaled_value (d : Decimal) : |d.value| * 10 ^ d.scale = d.coefficient := by
  rw [abs_value, div_mul_cancel₀ _ (unit_pos d.scale).ne']

theorem coefficient_le (d : Decimal) : (d.coefficient : ℚ) + 1 ≤ coefficientBound := by
  exact_mod_cast d.coefficient_lt

theorem value_le_coefficient (d : Decimal) : |d.value| ≤ d.coefficient := by
  rw [← scaled_value]
  exact le_mul_of_one_le_right (abs_nonneg _) (one_le_pow₀ (by norm_num))

namespace Nearest

variable {exact : ℚ} {d : Decimal}

theorem scaled_near (nearest : Nearest exact d) : 2 * |d.value - exact| * 10 ^ d.scale ≤ 1 :=
  (le_div_iff₀ (unit_pos d.scale)).mp nearest.near

theorem below_bound (nearest : Nearest exact d) : |exact| < (coefficientBound : ℚ) - 1 / 2 := by
  have largest := d.coefficient_le
  generalize (coefficientBound : ℚ) = bound at largest ⊢
  rcases nearest.near.lt_or_eq with closer | half
  · have scaled := (lt_div_iff₀ (unit_pos d.scale)).mp closer
    have apart : |exact| ≤ |d.value| + |d.value - exact| := by
      have triangle := abs_sub d.value (d.value - exact)
      rwa [sub_sub_cancel] at triangle
    have total := mul_le_mul_of_nonneg_right apart (unit_pos d.scale).le
    rw [add_mul, scaled_value] at total
    have widened : |exact| ≤ |exact| * 10 ^ d.scale :=
      le_mul_of_one_le_right (abs_nonneg exact) (one_le_pow₀ (by norm_num))
    linarith
  · have beyond := nearest.away half
    have whole := d.value_le_coefficient
    linarith

/-- Two decimals of which one has as many places as the other are a unit apart or equal. -/
theorem unit_apart {e : Decimal} (fewer : e.scale ≤ d.scale) (differs : d.value ≠ e.value) :
    1 ≤ |d.value - e.value| * 10 ^ d.scale := by
  have units : (d.value - e.value) * 10 ^ d.scale =
      ((d.signed - e.signed * Nat.pow 10 (d.scale - e.scale) : Int) : ℚ) := by
    rw [sub_mul, ← signed_rescale e fewer, div_mul_cancel₀ _ (unit_pos d.scale).ne', value,
      div_mul_cancel₀ _ (unit_pos d.scale).ne', Int.cast_sub]
  have nonzero : d.signed - e.signed * Nat.pow 10 (d.scale - e.scale) ≠ 0 := by
    intro zero
    rw [zero, Int.cast_zero, mul_eq_zero, sub_eq_zero, or_iff_left (unit_pos d.scale).ne'] at units
    exact differs units
  rw [← abs_of_pos (unit_pos d.scale), ← abs_mul, units]
  exact_mod_cast Int.one_le_abs nonzero

theorem exact_of_held (nearest : Nearest exact d) {e : Decimal} (holds : e.value = exact) :
    d.value = exact := by
  by_contra differs
  rcases le_or_gt e.scale d.scale with fewer | more
  · have apart := unit_apart fewer (holds ▸ differs)
    have near := nearest.scaled_near
    rw [holds] at apart
    linarith
  · rcases nearest.full differs with most | filled
    · exact absurd e.scale_le (most ▸ more).not_ge
    · -- The number needs more places than were kept, and with one more it already outgrows 96 bits.
      have places : (10 : ℚ) ^ (d.scale + 1) ≤ 10 ^ e.scale :=
        pow_le_pow_right₀ (by norm_num) more
      have coefficient := scaled_value e
      have largest := e.coefficient_le
      have grown := mul_le_mul_of_nonneg_left places (abs_nonneg exact)
      rw [← holds, coefficient] at grown
      rw [← holds] at filled
      generalize (coefficientBound : ℚ) = bound at largest filled
      linarith

theorem value_eq_iff (nearest : Nearest exact d) : d.value = exact ↔ ∃ e : Decimal, e.value = exact :=
  ⟨fun same => ⟨d, same⟩, fun ⟨_, holds⟩ => nearest.exact_of_held holds⟩

end Nearest

theorem ReadAs.none_iff {exact : ℚ} {result : Option Decimal} (read : ReadAs exact result) :
    result = none ↔ (coefficientBound : ℚ) - 1 / 2 ≤ |exact| := by
  cases result with
  | none => exact iff_of_true rfl read
  | some d => exact iff_of_false (Option.some_ne_none d) (Nearest.below_bound read).not_ge

/-! ## Rounding half up -/

/-- The quotient of the magnitude by the unit is rounded to the nearest whole number, a half up. -/
def RoundsHalfUp (magnitude unit rounded : Nat) : Prop :=
  2 * (rounded * unit) ≤ 2 * magnitude + unit ∧ 2 * magnitude < 2 * (rounded * unit) + unit

theorem rounds_half_up (kept : Nat) {digit unit below : Nat} (single : digit < 10) (small : below < unit) :
    RoundsHalfUp ((kept * 10 + digit) * unit + below) (unit * 10)
      (if digit < 5 then kept else kept + 1) := by
  have magnitude : (kept * 10 + digit) * unit + below = kept * (unit * 10) + digit * unit + below := by ring
  rw [magnitude, RoundsHalfUp]
  split
  · rename_i less
    have bound := Nat.mul_le_mul_right unit (Nat.le_of_lt_succ less)
    omega
  · rename_i more
    have lower := Nat.mul_le_mul_right unit (Nat.not_lt.mp more)
    have upper := Nat.mul_le_mul_right unit (Nat.le_of_lt_succ single)
    have next := Nat.add_one_mul kept (unit * 10)
    omega

/-- A number that fills the coefficient is rounded the same way when a place less is kept. -/
theorem rounds_filled {magnitude unit : Nat} (rounds : RoundsHalfUp magnitude unit coefficientBound) :
    RoundsHalfUp magnitude (unit * 10) ((coefficientBound + 4) / 10) := by
  obtain ⟨lower, upper⟩ := rounds
  have product : (coefficientBound + 4) / 10 * (unit * 10) = coefficientBound * unit + 4 * unit := by
    have whole : (coefficientBound + 4) / 10 * 10 = coefficientBound + 4 := by decide
    rw [Nat.mul_comm unit 10, ← Nat.mul_assoc, whole, Nat.add_mul]
  rw [RoundsHalfUp, product]
  omega

theorem nearest_of_half_up {negative : Bool} {magnitude dropped rounded : Nat} {d : Decimal}
    (rounds : RoundsHalfUp magnitude (10 ^ dropped) rounded)
    (value : d.value = quotient negative rounded d.scale)
    (full : d.scale = 28 ∨ coefficientBound * (2 * 10 ^ dropped) ≤ 20 * magnitude + 10 ^ dropped) :
    Nearest (quotient negative magnitude (d.scale + dropped)) d := by
  have extended : d.value = quotient negative (rounded * 10 ^ dropped) (d.scale + dropped) := by
    rw [value, quotient_extend]
  have unit := unit_pos dropped
  have split : (10 : ℚ) ^ (d.scale + dropped) = 10 ^ d.scale * 10 ^ dropped := pow_add 10 d.scale dropped
  obtain ⟨lower, upper⟩ := rounds
  have lower : (2 * (rounded * 10 ^ dropped) : ℚ) ≤ 2 * magnitude + 10 ^ dropped := by exact_mod_cast lower
  have upper : (2 * magnitude : ℚ) < 2 * (rounded * 10 ^ dropped) + 10 ^ dropped := by exact_mod_cast upper
  have apart : 2 * |d.value - quotient negative magnitude (d.scale + dropped)| =
      |2 * ((rounded : ℚ) * 10 ^ dropped - magnitude)| / 10 ^ dropped * (1 / 10 ^ d.scale) := by
    rw [extended, quotient_dist, abs_mul, abs_two, split, Nat.cast_mul, Nat.cast_pow, Nat.cast_ofNat,
      mul_one_div, div_div, mul_comm (10 ^ dropped), mul_div_assoc]
  refine ⟨?near, ?away, ?full⟩
  case near =>
    rw [apart]
    refine mul_le_of_le_one_left (one_div_nonneg.mpr (unit_pos d.scale).le) ?_
    rw [div_le_one unit, abs_le]
    constructor <;> linarith
  case away =>
    intro half
    rw [apart, mul_eq_right₀ (one_div_pos.mpr (unit_pos d.scale)).ne', div_eq_one_iff_eq unit.ne'] at half
    rw [extended, abs_quotient, abs_quotient, div_lt_div_iff_of_pos_right (unit_pos _), Nat.cast_mul,
      Nat.cast_pow, Nat.cast_ofNat]
    rcases abs_choice (2 * ((rounded : ℚ) * 10 ^ dropped - magnitude)) with same | opposite
    · linarith
    · linarith
  case full =>
    intro _
    refine full.imp_right fun filled => ?_
    have filled : (coefficientBound : ℚ) * (2 * 10 ^ dropped) ≤ 20 * magnitude + 10 ^ dropped := by
      exact_mod_cast filled
    generalize (coefficientBound : ℚ) = bound at filled ⊢
    rw [abs_quotient, split, pow_succ, div_mul_eq_mul_div, mul_comm (10 ^ d.scale) 10, ← mul_assoc,
      mul_comm (10 ^ d.scale) (10 ^ dropped), mul_div_mul_right _ _ (unit_pos d.scale).ne',
      div_add' _ _ _ unit.ne', le_div_iff₀ unit]
    linarith

theorem of_parts_reads (negative : Bool) {magnitude dropped rounded scale : Nat}
    (rounds : RoundsHalfUp magnitude (10 ^ dropped) rounded) (short : rounded < coefficientBound)
    (places : scale ≤ 28)
    (full : scale = 28 ∨ coefficientBound * (2 * 10 ^ dropped) ≤ 20 * magnitude + 10 ^ dropped) :
    ReadAs (quotient negative magnitude (scale + dropped)) (ofParts? negative rounded scale) := by
  obtain ⟨d, made⟩ := of_parts_some negative short places
  obtain ⟨-, kept, value⟩ := of_parts_parts made
  rw [made, ← kept]
  rw [← kept] at value full
  exact nearest_of_half_up rounds value full

/-- Rounding that fills the coefficient gives up one more place, and none is left of a whole number. -/
theorem outgrown_reads (negative : Bool) {magnitude dropped scale : Nat}
    (rounds : RoundsHalfUp magnitude (10 ^ dropped) coefficientBound) (places : scale ≤ 28) :
    ReadAs (quotient negative magnitude (scale + dropped))
      (if scale = 0 then none else ofParts? negative ((coefficientBound + 4) / 10) (scale - 1)) := by
  have lower := rounds.1
  split
  · rename_i whole
    have lower : (2 * (coefficientBound * 10 ^ dropped) : ℚ) ≤ 2 * magnitude + 10 ^ dropped := by
      exact_mod_cast lower
    rw [ReadAs, abs_quotient, whole, Nat.zero_add, le_div_iff₀ (unit_pos _)]
    generalize (coefficientBound : ℚ) = bound at lower ⊢
    linarith
  · rename_i fraction
    have total : scale + dropped = scale - 1 + (dropped + 1) := by omega
    have rounds := rounds_filled rounds
    rw [← pow_succ] at rounds
    rw [total]
    refine of_parts_reads negative rounds (by decide) ((Nat.sub_le scale 1).trans places) (.inr ?_)
    rw [pow_succ]
    linarith

end QueryCheck.Decimal

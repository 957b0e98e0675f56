import Mathlib.Algebra.Order.Field.Rat
import Mathlib.Algebra.Order.Ring.Cast
import QueryCheck.Number.Binary64
import QueryCheck.Number.Decimal

/-!
# The orders of numbers

Decimals have the order of the rational numbers that they denote. Doubles have the order of the
standard for floating point numbers. Either order is reversed when its sides are exchanged.
-/

namespace QueryCheck

set_option autoImplicit false

namespace Decimal

/-- The rational number that the decimal denotes. -/
def value (d : Decimal) : ℚ :=
  d.signed / 10 ^ d.scale

theorem value_of_int64 (n : Int64) : (ofInt64 n).value = n.toInt := by
  have signed : (ofInt64 n).signed = n.toInt := by
    unfold signed ofInt64
    dsimp only
    simp only [decide_eq_true_eq, Int64.lt_iff_toInt_lt, Int64.toInt_zero]
    split
    · omega
    · omega
  rw [value, signed]
  exact div_one _

theorem order_eq_cmp (a b : Decimal) : a.order b = cmp a.value b.value := by
  have unit : ∀ scale : Nat, (0 : ℚ) < 10 ^ scale := fun scale => pow_pos (by decide) scale
  have left : a.value * (10 ^ a.scale * 10 ^ b.scale) =
      ((a.signed * Nat.pow 10 b.scale : Int) : ℚ) := by
    simp only [value, Nat.pow_eq]
    rw [← mul_assoc, div_mul_cancel₀ _ (unit a.scale).ne']
    push_cast
    rfl
  have right : b.value * (10 ^ a.scale * 10 ^ b.scale) =
      ((b.signed * Nat.pow 10 a.scale : Int) : ℚ) := by
    simp only [value, Nat.pow_eq]
    rw [mul_comm (10 ^ a.scale), ← mul_assoc, div_mul_cancel₀ _ (unit b.scale).ne']
    push_cast
    rfl
  have positive := mul_pos (unit a.scale) (unit b.scale)
  rw [← cmp_mul_pos_right positive, left, right, Int.cast_strictMono.cmp_map_eq, cmp_eq_compare]
  rfl

theorem order_swap (a b : Decimal) : b.order a = (a.order b).swap := by
  rw [order_eq_cmp, order_eq_cmp, cmp_swap]

end Decimal

namespace Binary64

open Float.Model (UnpackedFloat)

/-- What two doubles are to each other by the standard; a NaN has no order. -/
def standardOrder (x y : Float) : Option Ordering :=
  x.toModel.unpack.compare y.toModel.unpack

theorem magnitude_swap (e f : Int) (m n : Nat) :
    (Ord.compare f e).then (Ord.compare n m) =
      ((Ord.compare e f).then (Ord.compare m n)).swap := by
  rw [Ordering.swap_then, Int.compare_swap, Nat.compare_swap]

theorem compare_unpacked_swap (x y : UnpackedFloat) : y.compare x = (x.compare y).map Ordering.swap := by
  cases x with
  | notANumber =>
      cases y with
      | infinity sign => cases sign <;> rfl
      | finite sign => cases sign <;> rfl
      | _ => rfl
  | infinity sign =>
      cases y with
      | infinity other => cases sign <;> cases other <;> rfl
      | finite other => cases sign <;> cases other <;> rfl
      | _ => cases sign <;> rfl
  | zero sign =>
      cases y with
      | infinity other => cases other <;> rfl
      | finite other => cases other <;> rfl
      | _ => rfl
  | finite sign m e =>
      cases y with
      | infinity other => cases sign <;> cases other <;> rfl
      | finite other n f =>
          cases sign with
          | positive =>
              cases other with
              | positive => exact congrArg some (magnitude_swap e f m n)
              | negative => rfl
          | negative =>
              cases other with
              | positive => rfl
              | negative => exact congrArg (some ∘ Ordering.swap) (magnitude_swap e f m n)
      | _ => cases sign <;> rfl

theorem standard_order_swap (x y : Float) :
    standardOrder y x = (standardOrder x y).map Ordering.swap :=
  compare_unpacked_swap x.toModel.unpack y.toModel.unpack

theorem lt_iff (x y : Float) : x < y ↔ standardOrder x y = some .lt := by
  change decide (x.toModel < y.toModel) = true ↔ _
  rw [decide_eq_true_iff]
  change (standardOrder x y == some .lt) = true ↔ _
  exact beq_iff_eq

theorem order_eq_standard (x y : Float) : order x y = standardOrder x y := by
  have same : (x == y) = (standardOrder x y == some .eq) := rfl
  unfold order
  simp only [lt_iff, same, standard_order_swap x y]
  cases standardOrder x y with
  | none => rfl
  | some found => cases found <;> rfl

theorem order_swap (x y : Float) : order y x = (order x y).map Ordering.swap := by
  rw [order_eq_standard, order_eq_standard, standard_order_swap]

end Binary64

end QueryCheck

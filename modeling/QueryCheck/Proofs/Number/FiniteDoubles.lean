import Mathlib.Tactic.Ring
import QueryCheck.Number.Binary64

/-!
# Finite results

A result is rounded to a mantissa of 53 bits, so its exponent is known from the position of its first
digit. Where this position is low enough the result is finite: dividing a finite number by a number of at
least two is one such case.
-/

namespace QueryCheck.Binary64

open Float.Model (Format UnpackedFloat totalExponent)
open Float.Model.UnpackedFloat

set_option autoImplicit false

/-! ## Exponents of rounded numbers -/

theorem target_exponent (total : Int) :
    Format.binary64.targetExponent total = max (total - 53) (-1074) :=
  rfl

theorem shifted_mantissa (em : ExtendedMantissa) (count : Nat) :
    (em >>> count).mantissa = em.mantissa / 2 ^ count := by
  induction count with
  | zero => exact (Nat.div_one _).symm
  | succ count induction =>
      change (em >>> count).mantissa / 2 = _
      rw [induction, Nat.div_div_eq_div_mul, Nat.pow_succ]

theorem rounded_between (em : ExtendedMantissa) :
    em.mantissa ≤ em.roundedMantissa ∧ em.roundedMantissa ≤ em.mantissa + 1 := by
  obtain ⟨m, half, rest⟩ := em
  cases half <;> cases rest <;>
    simp only [ExtendedMantissa.roundedMantissa, ExtendedMantissa.accuracy, Accuracy.roundToNearestEven] <;>
    omega

section shift

variable (m : Nat) (e : Int) (accuracy : Accuracy)

theorem shift_exponent : (shiftToTargetExponent Format.binary64 m e accuracy).2 =
    max e (max (totalExponent m e - 53) (-1074)) := by
  change e + ((Format.binary64.targetExponent (totalExponent m e) - e).toNat : Int) = _
  rw [target_exponent]
  omega

theorem shift_mantissa : (shiftToTargetExponent Format.binary64 m e accuracy).1.mantissa =
    m / 2 ^ (max (totalExponent m e - 53) (-1074) - e).toNat := by
  have whole : (ExtendedMantissa.ofMantissaAndAccuracy m accuracy).mantissa = m := by
    cases accuracy with
    | exact => rfl
    | inexact order => cases order <;> rfl
  unfold shiftToTargetExponent shiftToExponent
  dsimp only
  rw [shifted_mantissa, whole, target_exponent]

/-- The first shift leaves at most 53 bits. -/
theorem shift_short : (shiftToTargetExponent Format.binary64 m e accuracy).1.mantissa < 2 ^ 53 := by
  rw [shift_mantissa]
  generalize width : (max (totalExponent m e - 53) (-1074) - e).toNat = count
  have long : m.log2 + 1 ≤ 53 + count := by
    unfold totalExponent at width
    omega
  have above : m < 2 ^ 53 * 2 ^ count := by
    rw [← Nat.pow_add]
    exact Nat.lt_of_lt_of_le Nat.lt_log2_self (Nat.pow_le_pow_right (by decide) long)
  exact Nat.div_lt_of_lt_mul (by rw [Nat.mul_comm]; exact above)

end shift

/-- The mantissa is shifted once more when it has been rounded. -/
theorem round_of_shifts (sign : Sign) {m : Nat} {e : Int} {accuracy : Accuracy}
    {shifted final : ExtendedMantissa × Int}
    (first : shiftToTargetExponent Format.binary64 m e accuracy = shifted)
    (second : shiftToTargetExponent Format.binary64 shifted.1.roundedMantissa shifted.2 .exact = final) :
    roundWithAccuracy Format.binary64 sign m e accuracy =
      if none : final.1.mantissa = 0 then .zero sign
      else .finite sign final.1.mantissa final.2 (Nat.pos_of_ne_zero none) := by
  subst first second
  rfl

/-- A number whose exponent is at most the bound -/
inductive ExponentAtMost (bound : Int) : UnpackedFloat → Prop where
  | zero (sign : Sign) : ExponentAtMost bound (.zero sign)
  | finite (sign : Sign) {m : Nat} {e : Int} (positive : 0 < m) (low : e ≤ bound) :
      ExponentAtMost bound (.finite sign m e positive)

theorem ExponentAtMost.exponent_le {bound e : Int} {sign : Sign} {m : Nat} {positive : 0 < m}
    (low : ExponentAtMost bound (.finite sign m e positive)) : e ≤ bound := by
  cases low with
  | finite sign positive low => exact low

theorem exponent_mono {bound more : Int} {u : UnpackedFloat} (low : ExponentAtMost bound u)
    (higher : bound ≤ more) : ExponentAtMost more u := by
  cases low with
  | zero sign => exact .zero sign
  | finite sign positive low => exact .finite sign positive (Int.le_trans low higher)

theorem log2_le {n bits : Nat} (short : n ≤ 2 ^ bits) : n.log2 ≤ bits := by
  by_cases zero : n = 0
  · rw [zero]
    exact Nat.zero_le _
  · exact Nat.le_of_lt_succ ((Nat.log2_lt zero).mpr
      (Nat.lt_of_le_of_lt short (Nat.pow_lt_pow_right (by decide) (Nat.lt_succ_self bits))))

/-- Rounding up may carry into one bit more. -/
theorem round_exponent (sign : Sign) (m : Nat) (e : Int) (accuracy : Accuracy) :
    ExponentAtMost (max e (max (totalExponent m e - 53) (-1074)) + 1)
      (roundWithAccuracy Format.binary64 sign m e accuracy) := by
  have first := shift_exponent m e accuracy
  have short := shift_short m e accuracy
  have rounded := (rounded_between (shiftToTargetExponent Format.binary64 m e accuracy).1).2
  have carried := log2_le (Nat.le_trans rounded short)
  generalize same : shiftToTargetExponent Format.binary64 m e accuracy = shifted at *
  have second := shift_exponent shifted.1.roundedMantissa shifted.2 .exact
  generalize again :
    shiftToTargetExponent Format.binary64 shifted.1.roundedMantissa shifted.2 .exact = final at second
  rw [round_of_shifts sign same again]
  by_cases none : final.1.mantissa = 0
  · rw [dif_pos none]
    exact .zero sign
  · rw [dif_neg none]
    apply ExponentAtMost.finite
    rw [second, first]
    unfold totalExponent at *
    omega

theorem log2_mono {n m : Nat} (lower : n ≤ m) : n.log2 ≤ m.log2 := by
  by_cases zero : n = 0
  · rw [zero]
    exact Nat.zero_le _
  · exact (Nat.le_log2 (by omega)).mpr (Nat.le_trans (Nat.log2_self_le zero) lower)

theorem log2_div {n bits : Nat} (long : bits ≤ n.log2) : (n / 2 ^ bits).log2 = n.log2 - bits := by
  by_cases zero : n = 0
  · rw [zero] at long ⊢
    rw [Nat.le_zero.mp long]
    rfl
  · have lower : 2 ^ (n.log2 - bits) ≤ n / 2 ^ bits := by
      rw [Nat.le_div_iff_mul_le (Nat.two_pow_pos bits), ← Nat.pow_add, Nat.sub_add_cancel long]
      exact Nat.log2_self_le zero
    have upper : n / 2 ^ bits < 2 ^ (n.log2 - bits + 1) := by
      apply Nat.div_lt_of_lt_mul
      rw [← Nat.pow_add, show bits + (n.log2 - bits + 1) = n.log2 + 1 by omega]
      exact Nat.lt_log2_self
    have nonzero : n / 2 ^ bits ≠ 0 := by
      have positive := Nat.two_pow_pos (n.log2 - bits)
      omega
    exact (Nat.log2_eq_iff nonzero).mpr ⟨lower, upper⟩

/-- A mantissa of at least 53 bits keeps 53 of them, if its first digit does not lie too low. -/
theorem round_normal (sign : Sign) {m : Nat} {e : Int} (accuracy : Accuracy)
    (long : e ≤ totalExponent m e - 53) (normal : -1021 ≤ totalExponent m e) :
    ∃ rounded exponent positive, roundWithAccuracy Format.binary64 sign m e accuracy =
      .finite sign rounded exponent positive ∧ rounded.log2 = 52 ∧
        totalExponent m e - 53 ≤ exponent := by
  have first := shift_exponent m e accuracy
  have between := rounded_between (shiftToTargetExponent Format.binary64 m e accuracy).1
  have carried := log2_le (Nat.le_trans between.2 (shift_short m e accuracy))
  have digits : (shiftToTargetExponent Format.binary64 m e accuracy).1.mantissa.log2 = 52 := by
    rw [shift_mantissa, log2_div] <;> unfold totalExponent at * <;> omega
  generalize same : shiftToTargetExponent Format.binary64 m e accuracy = shifted at *
  have filled : 52 ≤ shifted.1.roundedMantissa.log2 := by
    rw [← digits]
    exact log2_mono between.1
  have second := shift_mantissa shifted.1.roundedMantissa shifted.2 .exact
  have raised := shift_exponent shifted.1.roundedMantissa shifted.2 .exact
  generalize again :
    shiftToTargetExponent Format.binary64 shifted.1.roundedMantissa shifted.2 .exact = final at second raised
  have full : final.1.mantissa.log2 = 52 := by
    rw [second, log2_div] <;> unfold totalExponent at * <;> omega
  have nonzero : final.1.mantissa ≠ 0 := by
    intro zero
    rw [zero] at full
    cases full
  refine ⟨final.1.mantissa, final.2, Nat.pos_of_ne_zero nonzero, ?_, full, ?_⟩
  · rw [round_of_shifts sign same again, dif_neg nonzero]
  · omega

/-! ## Fields of packed numbers -/

def exponentField (bits : BitVec Format.binary64.numBits) : Nat :=
  (unpackExponent bits).toNat

theorem implicit_digit (m : BitVec 52) : (1#1 ++ m).toNat.log2 = 52 := by
  have parts : (1#1 ++ m).toNat = 2 ^ 52 + m.toNat := by
    rw [BitVec.toNat_append, ← Nat.shiftLeft_add_eq_or_of_lt m.isLt]
    rfl
  have small := m.isLt
  rw [parts, Nat.log2_eq_iff (by omega)]
  omega

/-- The numbers that are unpacked where the exponent has this field -/
inductive OfField : Nat → UnpackedFloat → Prop where
  | special {u : UnpackedFloat} (special : u.isFinite = false) : OfField 2047 u
  | zero (sign : Sign) : OfField 0 (.zero sign)
  | small (sign : Sign) {m : Nat} (positive : 0 < m) (short : m.log2 < 52) :
      OfField 0 (.finite sign m (-1074) positive)
  | normal (sign : Sign) {field m : Nat} (positive : 0 < m) (inside : 0 < field ∧ field < 2047)
      (full : m.log2 = 52) : OfField field (.finite sign m (field - 1075) positive)

theorem unpack_of_full {bits : BitVec Format.binary64.numBits} (full : unpackExponent bits = -1#_) :
    (unpack Format.binary64 bits).isFinite = false := by
  have unpacked : unpack Format.binary64 bits =
      if unpackMantissa bits = 0#_ then .infinity (.ofBitVec (unpackSign bits)) else .notANumber :=
    if_pos full
  rw [unpacked]
  split <;> rfl

theorem unpacked_of_field (bits : BitVec Format.binary64.numBits) :
    OfField (exponentField bits) (unpack Format.binary64 bits) := by
  by_cases full : unpackExponent bits = -1#_
  · have value : exponentField bits = 2047 := congrArg BitVec.toNat full
    rw [value]
    exact .special (unpack_of_full full)
  by_cases low : unpackExponent bits = 0#_
  · have value : exponentField bits = 0 := congrArg BitVec.toNat low
    by_cases none : unpackMantissa bits = 0#_
    · have unpacked : unpack Format.binary64 bits = .zero _ :=
        (if_neg full).trans ((if_pos low).trans (dif_pos none))
      rw [value, unpacked]
      exact .zero _
    · have positive : 0 < (unpackMantissa bits).toNat := by
        simpa [BitVec.toNat_pos, BitVec.pos_iff_ne_zero] using none
      have least : ((exponentField bits : Int) - (1023 + 52)) + 1 = -1074 := by
        rw [value]
        rfl
      have unpacked : unpack Format.binary64 bits = .finite _ _ (-1074) positive :=
        (if_neg full).trans ((if_pos low).trans ((dif_neg none).trans
          (congrArg (UnpackedFloat.finite _ _ · positive) least)))
      rw [value, unpacked]
      exact .small _ positive ((Nat.log2_lt (Nat.ne_of_gt positive)).mpr (unpackMantissa bits).isLt)
  · have inside : 0 < exponentField bits ∧ exponentField bits < 2047 := by
      have below : exponentField bits < 2048 := (unpackExponent bits).isLt
      have high : exponentField bits ≠ 2047 := fun same => full (BitVec.eq_of_toNat_eq same)
      have least : exponentField bits ≠ 0 := fun same => low (BitVec.eq_of_toNat_eq same)
      omega
    have digits := implicit_digit (unpackMantissa bits)
    have positive : 0 < (1#1 ++ unpackMantissa bits).toNat := by
      apply Nat.pos_of_ne_zero
      intro zero
      rw [zero] at digits
      cases digits
    have unpacked : unpack Format.binary64 bits = .finite _ _ (exponentField bits - 1075) positive :=
      (if_neg full).trans (if_neg low)
    rw [unpacked]
    exact .normal _ positive inside digits

/-- A number of so many digits in front of the point at most, or zero -/
inductive Below (digits : Int) : UnpackedFloat → Prop where
  | zero (sign : Sign) : Below digits (.zero sign)
  | finite (sign : Sign) {m : Nat} {e : Int} (positive : 0 < m) (few : totalExponent m e ≤ digits) :
      Below digits (.finite sign m e positive)

/-- A number of so many digits in front of the point at least, or infinity -/
inductive Above (digits : Int) : UnpackedFloat → Prop where
  | infinity (sign : Sign) : Above digits (.infinity sign)
  | finite (sign : Sign) {m : Nat} {e : Int} (positive : 0 < m) (many : digits ≤ totalExponent m e) :
      Above digits (.finite sign m e positive)

instance (digits : Int) : DecidablePred (Below digits)
  | .zero sign => isTrue (.zero sign)
  | .finite sign _ _ positive =>
    decidable_of_iff _ ⟨.finite sign positive, fun | .finite _ _ few => few⟩
  | .infinity _ => isFalse nofun
  | .notANumber => isFalse nofun

instance (digits : Int) : DecidablePred (Above digits)
  | .infinity sign => isTrue (.infinity sign)
  | .finite sign _ _ positive =>
    decidable_of_iff _ ⟨.finite sign positive, fun | .finite _ _ many => many⟩
  | .zero _ => isFalse nofun
  | .notANumber => isFalse nofun

theorem finite_of_below {digits : Int} {u : UnpackedFloat} (below : Below digits u) : u.isFinite = true := by
  cases below with
  | zero sign => rfl
  | finite sign positive few => rfl

theorem unpacked_below {field : Nat} {u : UnpackedFloat} (shape : OfField field u) {most : Int}
    (low : field ≤ most + 1075) (least : -1074 ≤ most) (fits : most ≤ 971) : Below (most + 53) u := by
  cases shape with
  | special special => omega
  | zero sign => exact .zero sign
  | small sign positive short =>
      apply Below.finite
      unfold totalExponent
      omega
  | normal sign positive inside full =>
      apply Below.finite
      unfold totalExponent
      omega

theorem packed_field {most : Int} {u : UnpackedFloat} (low : ExponentAtMost most u)
    (least : -1074 ≤ most) (fits : most ≤ 971) :
    (exponentField (pack Format.binary64 u) : Int) ≤ most + 1075 := by
  unfold exponentField
  fun_cases pack with
  | case1 => cases low
  | case2 => cases low
  | case3 sign =>
      rw [packedZero, unpackExponent_packComponents]
      change (0 : Int) ≤ _
      omega
  | case4 sign m e positive biased overflow =>
      change 2048 ≤ (e + 1023 + 52).toNat + 1 at overflow
      have below := low.exponent_le
      omega
  | case5 sign m e positive digits biased fitting full =>
      change ¬2048 ≤ (e + 1023 + 52).toNat + 1 at fitting
      have below := low.exponent_le
      rw [unpackExponent_packComponents]
      change (((e + 1023 + 52).toNat % 2048 : Nat) : Int) ≤ _
      omega
  | case6 sign m e positive digits biased fitting short =>
      rw [unpackExponent_packComponents]
      change (0 : Int) ≤ _
      omega

theorem packed_below {most : Int} {u : UnpackedFloat} (low : ExponentAtMost most u)
    (least : -1074 ≤ most) (fits : most ≤ 971) :
    Below (most + 53) (unpack Format.binary64 (pack Format.binary64 u)) :=
  unpacked_below (unpacked_of_field _) (packed_field low least fits) least fits

theorem packed_above (sign : Sign) {m : Nat} {e : Int} (positive : 0 < m) (full : m.log2 = 52)
    (normal : -1074 ≤ e) :
    Above (e + 53) (unpack Format.binary64 (pack Format.binary64 (.finite sign m e positive))) := by
  by_cases overflow : 2048 ≤ (e + 1023 + 52).toNat + 1
  · have packed : pack Format.binary64 (.finite sign m e positive) = packedInfinity Format.binary64 sign :=
      if_pos overflow
    have unpacked : unpack Format.binary64 (packedInfinity Format.binary64 sign) = .infinity _ :=
      (if_pos (unpackExponent_packComponents ..)).trans (if_pos (unpackMantissa_packComponents ..))
    rw [packed, unpacked]
    exact .infinity _
  · have packed : pack Format.binary64 (.finite sign m e positive) =
        packComponents Format.binary64 sign (BitVec.ofNat _ (e + 1023 + 52).toNat) (BitVec.ofNat _ m) := by
      refine (if_neg overflow).trans (if_pos ?_)
      rw [full]
      rfl
    have field : exponentField (pack Format.binary64 (.finite sign m e positive)) =
        (e + 1023 + 52).toNat := by
      rw [packed, exponentField, unpackExponent_packComponents]
      change (e + 1023 + 52).toNat % 2048 = _
      omega
    have shape := unpacked_of_field (pack Format.binary64 (.finite sign m e positive))
    rw [field] at shape
    generalize unpack Format.binary64 (pack Format.binary64 (.finite sign m e positive)) = u at shape
    generalize same : (e + 1023 + 52).toNat = biased at shape
    cases shape with
    | special special => omega
    | zero sign => omega
    | small sign positive short => omega
    | normal sign positive inside full =>
        apply Above.finite
        unfold totalExponent
        omega

/-! ## Finite numbers -/

theorem field_of_finite {field : Nat} {u : UnpackedFloat} (shape : OfField field u)
    (finite : u.isFinite = true) : field ≤ 2046 := by
  cases shape with
  | special special =>
      rw [special] at finite
      cases finite
  | zero sign => omega
  | small sign positive short => omega
  | normal sign positive inside full => omega

theorem finite_below {x : Float} (finite : x.isFinite = true) : Below 1024 x.toModel.unpack := by
  have shape := unpacked_of_field x.toModel.toBits.toBitVec
  have low := field_of_finite shape finite
  have below : Below (971 + 53) _ := unpacked_below shape (by omega) (by decide) (by decide)
  exact below

theorem finite_exponent {field : Nat} {u : UnpackedFloat} (shape : OfField field u)
    (finite : u.isFinite = true) : ExponentAtMost 971 u := by
  have low := field_of_finite shape finite
  cases shape with
  | special special =>
      rw [special] at finite
      cases finite
  | zero sign => exact .zero sign
  | small sign positive short => exact .finite sign positive (by decide)
  | normal sign positive inside full => exact .finite sign positive (by omega)

theorem neg_exponent {bound : Int} {u : UnpackedFloat} (low : ExponentAtMost bound u) :
    ExponentAtMost bound u.neg := by
  cases low with
  | zero sign => exact .zero _
  | finite sign positive low => exact .finite _ positive low

theorem neg_finite {x : Float} (finite : x.isFinite = true) : (-x).isFinite = true := by
  have low := finite_exponent (unpacked_of_field x.toModel.toBits.toBitVec) finite
  exact finite_of_below (packed_below (neg_exponent low) (by decide) (by decide))

theorem with_sign_finite (negative : Bool) {x : Float} (finite : x.isFinite = true) :
    (withSign negative x).isFinite = true := by
  cases negative with
  | false => exact finite
  | true => exact neg_finite finite

/-! ## Quotients -/

theorem log2_quotient (n : Nat) {divisor : Nat} (positive : 0 < divisor) :
    (n / divisor).log2 ≤ n.log2 - divisor.log2 := by
  have power := Nat.log2_self_le (Nat.ne_of_gt positive)
  by_cases long : divisor.log2 ≤ n.log2
  · rw [← log2_div long]
    exact log2_mono (Nat.div_le_div_left power (Nat.two_pow_pos _))
  · have small : n < divisor := by
      have below : n < 2 ^ (n.log2 + 1) := Nat.lt_log2_self
      have step := Nat.pow_le_pow_right (show 0 < 2 by decide) (show n.log2 + 1 ≤ divisor.log2 by omega)
      omega
    rw [Nat.div_eq_of_lt small]
    exact Nat.zero_le _

theorem log2_shift (n bits : Nat) : (n <<< bits).log2 ≤ n.log2 + bits := by
  by_cases zero : n <<< bits = 0
  · rw [zero]
    exact Nat.zero_le _
  · have below : n <<< bits < 2 ^ (n.log2 + bits + 1) := by
      rw [Nat.shiftLeft_eq, Nat.add_right_comm, Nat.pow_add]
      exact Nat.mul_lt_mul_of_pos_right Nat.lt_log2_self (Nat.two_pow_pos bits)
    exact Nat.le_of_lt_succ ((Nat.log2_lt zero).mpr below)

/-- A quotient has at most one digit more than its dividend has beyond its divisor. -/
theorem quotient_digits (m : Nat) (e : Int) {divisor : Nat} (f : Int) (positive : 0 < divisor) :
    ∃ quotient exponent accuracy, divCore Format.binary64 m e divisor f = (quotient, exponent, accuracy) ∧
      exponent ≤ max (totalExponent m e - totalExponent divisor f - 53) (-1074) ∧
      totalExponent quotient exponent ≤
        max (totalExponent m e - totalExponent divisor f + 1) (exponent + 1) := by
  refine ⟨_, _, _, rfl, ?_, ?_⟩
  · rw [target_exponent]
    exact Int.min_le_right _ _
  · rw [target_exponent]
    generalize same : min (e - f) (max (totalExponent m e - totalExponent divisor f - 53) (-1074)) = exponent
    have shifted := log2_shift m (e - f - exponent).toNat
    have quotient := log2_quotient (m <<< (e - f - exponent).toNat) positive
    unfold totalExponent at *
    omega

theorem quotient_exponent {u v : UnpackedFloat} (low : Below 1024 u) (large : Above 2 v) :
    ExponentAtMost 971 (UnpackedFloat.div Format.binary64 u v) := by
  cases low with
  | zero sign =>
      cases large with
      | infinity other => exact .zero _
      | finite other positive many => exact .zero _
  | @finite sign m e nonzero few =>
      cases large with
      | infinity other => exact .zero _
      | @finite other n f positive many =>
          obtain ⟨quotient, exponent, accuracy, core, least, digits⟩ := quotient_digits m e f positive
          have divided : UnpackedFloat.div Format.binary64 (.finite sign m e nonzero)
              (.finite other n f positive) =
                let parts := divCore Format.binary64 m e n f
                roundWithAccuracy Format.binary64 (sign / other) parts.1 parts.2.1 parts.2.2 :=
            rfl
          rw [divided, core]
          exact exponent_mono (round_exponent (sign / other) quotient exponent accuracy) (by omega)

/-- A finite number divided by one of at least two is finite. -/
theorem quotient_finite {x y : Float} (finite : x.isFinite = true) (large : Above 2 y.toModel.unpack) :
    (x / y).isFinite = true :=
  finite_of_below (packed_below (quotient_exponent (finite_below finite) large) (by decide) (by decide))

/-! ## Products -/

theorem log2_product (m n : Nat) : (m * n).log2 ≤ m.log2 + n.log2 + 1 := by
  by_cases zero : m * n = 0
  · rw [zero]
    exact Nat.zero_le _
  · have below : m * n < 2 ^ (m.log2 + n.log2 + 1 + 1) := by
      rw [show m.log2 + n.log2 + 1 + 1 = (m.log2 + 1) + (n.log2 + 1) by omega, Nat.pow_add]
      exact Nat.mul_lt_mul_of_lt_of_le Nat.lt_log2_self (Nat.le_of_lt Nat.lt_log2_self) (Nat.two_pow_pos _)
    exact Nat.le_of_lt_succ ((Nat.log2_lt zero).mpr below)

theorem product_exponent {u v : UnpackedFloat} {digits others : Int} (low : Below digits u)
    (short : Below others v) (least : -1072 ≤ digits + others) :
    ExponentAtMost (digits + others) (UnpackedFloat.mul Format.binary64 u v) := by
  cases low with
  | zero sign =>
      cases short with
      | zero other => exact .zero _
      | finite other positive few => exact .zero _
  | @finite sign m e nonzero few =>
      cases short with
      | zero other => exact .zero _
      | @finite other n f positive fewOthers =>
          have product := log2_product m n
          refine exponent_mono (round_exponent _ _ _ _) ?_
          unfold totalExponent at *
          omega

/-! ## Whole numbers and powers of ten -/

/-- A whole number with a power of ten is one product, rounded once. -/
theorem scaled_whole {n places : Nat} (positive : 0 < n) (held : places ≤ 2048) :
    UnpackedFloat.ofScientific Format.binary64 n places =
      roundWithAccuracy Format.binary64 .positive ((n <<< 53) * 10 ^ places) (-53) .exact := by
  have limit : (2 : Int) ^ Format.binary64.exponentBits = 2048 := rfl
  unfold UnpackedFloat.ofScientific
  rw [dif_neg (Nat.ne_of_gt positive), limit, if_neg (by omega), if_neg (by omega), if_pos (by omega)]
  rfl

theorem normalized_exponent (n : Nat) (word : n.log2 < 64) :
    ExponentAtMost 12 (UnpackedFloat.normalize Format.binary64 n 0 .positive) := by
  unfold UnpackedFloat.normalize
  split
  · rename_i negative
    exact absurd (Int.compare_eq_lt.mp negative) (by omega)
  · exact .zero _
  · rw [Int.toNat_natCast]
    unfold UnpackedFloat.round decreaseExponent
    dsimp only
    generalize (0 - Format.binary64.targetExponent (totalExponent n 0)).toNat = shift
    have shifted := log2_shift n shift
    refine exponent_mono (round_exponent _ _ _ _) ?_
    unfold totalExponent
    omega

theorem scaled_whole_low {n : Nat} (positive : 0 < n) (short : n.log2 < 64) :
    ExponentAtMost 971 (UnpackedFloat.ofScientific Format.binary64 n (0 : Nat)) := by
  have shifted := log2_shift n 53
  rw [scaled_whole positive (Nat.zero_le _), Nat.pow_zero, Nat.mul_one]
  refine exponent_mono (round_exponent _ _ _ _) ?_
  unfold totalExponent
  omega

/-- A whole number that fits a word is a finite double. -/
theorem whole_finite {n : Nat} (word : n < 2 ^ 64) : (Float.ofNat n).isFinite = true := by
  have short : n.log2 < 64 := by
    by_cases zero : n = 0
    · rw [zero]
      decide
    · exact (Nat.log2_lt zero).mpr word
  change (Float.ofScientific n false 0).isFinite = true
  by_cases fast : n < 2 ^ 53 ∧ 0 ≤ 22
  · have computed : Float.ofScientific n false 0 =
        n.toUInt64.toFloat * Float.exactlyRepresentablePowersOfTen[0] := dif_pos fast
    have one : Below 1 (Float.exactlyRepresentablePowersOfTen[0]).toModel.unpack := by decide +kernel
    have same : n.toUInt64.toNat = n := Nat.mod_eq_of_lt word
    have converted : Below 65 n.toUInt64.toFloat.toModel.unpack := by
      change Below (12 + 53)
        (unpack _ (pack _ (UnpackedFloat.normalize Format.binary64 n.toUInt64.toNat 0 .positive)))
      rw [same]
      exact packed_below (normalized_exponent n short) (by decide) (by decide)
    have product := product_exponent converted one (by decide)
    rw [computed]
    exact finite_of_below (packed_below product (by decide) (by decide))
  · have computed : Float.ofScientific n false 0 = ⟨Float.Model.ofScientific n (0 : Nat)⟩ := dif_neg fast
    have low := packed_below (scaled_whole_low (by omega) short) (by decide) (by decide)
    rw [computed]
    exact finite_of_below low

theorem above_mono {digits fewer : Int} {u : UnpackedFloat} (above : Above digits u)
    (lower : fewer ≤ digits) : Above fewer u := by
  cases above with
  | infinity sign => exact .infinity sign
  | finite sign positive many => exact .finite sign positive (Int.le_trans lower many)

theorem scaled_one_above {places : Nat} (some : 1 ≤ places) (held : places ≤ 2048) :
    Above 2 (unpack Format.binary64 (pack Format.binary64
      (UnpackedFloat.ofScientific Format.binary64 1 places))) := by
  have ten : 10 ≤ 10 ^ places := Nat.le_self_pow (Nat.ne_of_gt some) 10
  have digits : 56 ≤ ((1 <<< 53) * 10 ^ places).log2 := by
    rw [Nat.le_log2 (by omega)]
    omega
  obtain ⟨rounded, exponent, positive, result, full, high⟩ :=
    round_normal .positive (m := (1 <<< 53) * 10 ^ places) (e := -53) .exact
      (by unfold totalExponent; omega) (by unfold totalExponent; omega)
  rw [scaled_whole (by decide) held, result]
  unfold totalExponent at high
  exact above_mono (packed_above _ positive full (by omega)) (by omega)

/-- A positive power of ten is at least two, however it is rounded. -/
theorem power_of_ten_above {places : Nat} (some : 1 ≤ places) (held : places ≤ 308) :
    Above 2 (nearest 1 places).toModel.unpack := by
  have written : nearest 1 places = Float.ofScientific 1 false places := by
    have length : (natText 1).length = 1 := rfl
    unfold nearest
    dsimp only
    rw [if_neg (by decide), length, if_neg (by omega), if_neg (by omega), decide_eq_false (by omega)]
    rfl
  rw [written]
  by_cases fast : places ≤ 22
  · have table : ∀ less < 22, Above 2 (Float.ofScientific 1 false (less + 1)).toModel.unpack := by
      decide +kernel
    have found := table (places - 1) (by omega)
    rw [Nat.sub_add_cancel some] at found
    exact found
  · have computed : Float.ofScientific 1 false places = ⟨Float.Model.ofScientific 1 places⟩ :=
      dif_neg fun both => fast both.2
    rw [computed]
    exact scaled_one_above some (by omega)

end QueryCheck.Binary64

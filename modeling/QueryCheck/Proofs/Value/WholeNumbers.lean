import QueryCheck.Proofs.Number.FlooredRemainder
import QueryCheck.Value.Arithmetic

/-!
# Arithmetic of whole numbers

The operations on two INT64 values have the exact result where INT64 holds it, and overflow elsewhere.
One remainder is refused although it is zero, that of the least INT64 by minus one.
-/

namespace QueryCheck

set_option autoImplicit false

/-- The whole numbers that INT64 holds -/
def InRange (n : Int) : Prop :=
  -(int64Bound : Int) ≤ n ∧ n < int64Bound

theorem int64_in_range (a : Int64) : InRange a.toInt :=
  ⟨a.le_toInt, a.toInt_lt⟩

theorem int64_of_int_some_iff {n : Int} {a : Int64} : int64OfInt n = some a ↔ a.toInt = n := by
  unfold int64OfInt
  split
  · rename_i range
    rw [Option.some.injEq]
    constructor
    · rintro rfl
      exact Int64.toInt_ofInt_of_le range.1 range.2
    · rintro rfl
      exact Int64.ofInt_toInt a
  · rename_i outside
    refine ⟨nofun, ?_⟩
    rintro rfl
    exact absurd (int64_in_range a) outside

theorem int64_of_int_none_iff {n : Int} : int64OfInt n = none ↔ ¬InRange n := by
  unfold int64OfInt InRange
  split <;> simp_all

theorem least_iff (a : Int64) : a = Int64.minValue ↔ a.toInt = -(int64Bound : Int) := by
  rw [← Int64.toInt_inj, Int64.toInt_minValue]
  rfl

theorem quotient_by_others_in_range {a b : Int64} (other : b.toInt ≠ -1) :
    InRange (a.toInt.tdiv b.toInt) := by
  by_cases one : b.toInt = 1
  · rw [one, Int.tdiv_one]
    exact int64_in_range a
  · have size : (a.toInt.tdiv b.toInt).natAbs = a.toInt.natAbs / b.toInt.natAbs := Int.natAbs_tdiv _ _
    have half : a.toInt.natAbs / b.toInt.natAbs ≤ a.toInt.natAbs / 2 := by
      by_cases zero : b.toInt.natAbs = 0
      · rw [zero, Nat.div_zero]
        exact Nat.zero_le _
      · exact Nat.div_le_div_left (by omega) (by decide)
    have range := int64_in_range a
    unfold InRange at range ⊢
    omega

/-- A quotient leaves the range of INT64 in one case only. -/
theorem quotient_in_range_iff (a b : Int64) :
    InRange (a.toInt.tdiv b.toInt) ↔ ¬(a = Int64.minValue ∧ b = -1) := by
  have minusOne : b = -1 ↔ b.toInt = -1 := Int64.toInt_inj.symm
  rw [least_iff, minusOne]
  by_cases one : b.toInt = -1
  · have range := int64_in_range a
    rw [one, Int.tdiv_neg, Int.tdiv_one]
    unfold InRange at range ⊢
    omega
  · exact iff_of_true (quotient_by_others_in_range one) fun both => one both.2

namespace Value

open Condition (Arithmetic)

theorem truncated_floored (a : Int) {b : Int} (nonzero : b ≠ 0) :
    FlooredRemainder a b
      (if a.tmod b ≠ 0 ∧ (a.tmod b < 0 ↔ ¬b < 0) then a.tmod b + b else a.tmod b) := by
  refine FlooredRemainder.of_smaller ⟨a.tdiv b, ?_⟩ ?_
  · rw [Int.cast_id, Int.mul_comm, sub_eq_iff_eq_add, Int.mul_tdiv_add_tmod]
  · rw [Int.abs_eq_natAbs, Int.abs_eq_natAbs, Int.natAbs_tmod]
    exact_mod_cast Nat.mod_lt _ (Int.natAbs_pos.mpr nonzero)

theorem across_int_iff (rest b : Int64) :
    (rest != 0 && decide (rest < 0) != decide (b < 0)) = true ↔
      rest.toInt ≠ 0 ∧ (rest.toInt < 0 ↔ ¬b.toInt < 0) := by
  rw [Bool.and_eq_true, bne_iff_ne, bne_iff_ne, ne_eq, ne_eq, decide_eq_decide, Int64.lt_iff_toInt_lt,
    Int64.lt_iff_toInt_lt, ← Int64.toInt_inj, Int64.toInt_zero, not_iff, not_iff_comm]
  exact and_congr_right' iff_comm

/-- The correction of a remainder does not wrap. -/
theorem corrected_rest {a b rest : Int64} (whole : rest.toInt = a.toInt.tmod b.toInt) (nonzero : b ≠ 0) :
    FlooredRemainder a.toInt b.toInt
      (if rest != 0 && decide (rest < 0) != decide (b < 0) then rest + b else rest).toInt := by
  have divisor : b.toInt ≠ 0 := fun zero => nonzero (Int64.toInt_inj.mp zero)
  have floored := truncated_floored a.toInt divisor
  rw [← whole] at floored
  by_cases across : (rest != 0 && decide (rest < 0) != decide (b < 0)) = true
  · rw [if_pos ((across_int_iff rest b).mp across)] at floored
    -- The sum lies between zero and the divisor, which INT64 holds.
    have range : -2 ^ 63 ≤ b.toInt ∧ b.toInt < 2 ^ 63 := ⟨b.le_toInt, b.toInt_lt⟩
    have sum : (rest + b).toInt = rest.toInt + b.toInt := by
      have bounds := floored.range
      rw [Int64.toInt_add, Int.bmod_eq_of_le] <;> omega
    rw [if_pos across, sum]
    exact floored
  · rw [if_neg fun other => across ((across_int_iff rest b).mpr other)] at floored
    rw [if_neg across]
    exact floored

theorem int_mod_floored {a b : Int64} (nonzero : b ≠ 0) (fits : ¬(a = Int64.minValue ∧ b = -1)) :
    ∃ r, intMod a b = some r ∧ FlooredRemainder a.toInt b.toInt r.toInt := by
  rw [intMod, intRemainder]
  cases quotient : int64OfInt (a.toInt.tdiv b.toInt) with
  | none => exact absurd ((quotient_in_range_iff a b).mpr fits) (int64_of_int_none_iff.mp quotient)
  | some value => exact ⟨_, rfl, corrected_rest (Int64.toInt_mod a b) nonzero⟩

theorem int_mod_least : intMod Int64.minValue (-1) = none :=
  rfl

theorem floored_of_int_mod {a b r : Int64} (nonzero : b ≠ 0) (known : intMod a b = some r) :
    FlooredRemainder a.toInt b.toInt r.toInt := by
  by_cases pair : a = Int64.minValue ∧ b = -1
  · obtain ⟨rfl, rfl⟩ := pair
    rw [int_mod_least] at known
    cases known
  · obtain ⟨other, same, floored⟩ := int_mod_floored nonzero pair
    obtain rfl : other = r := Option.some.inj (same.symm.trans known)
    exact floored

/-- The whole number that an operation on two whole numbers has -/
inductive Exact (a b : Int) : Arithmetic → Int → Prop where
  | add : Exact a b .add (a + b)
  | sub : Exact a b .sub (a - b)
  | mul : Exact a b .mul (a * b)
  | mod {r : Int} (floored : FlooredRemainder a b r) : Exact a b .mod r

/-- The remainder whose quotient alone does not fit -/
def Refused (op : Arithmetic) (a b : Int64) : Prop :=
  op = .mod ∧ a = Int64.minValue ∧ b = -1

/-- An operation gives the exact result where it fits, and overflows elsewhere. -/
def GivesExact (op : Arithmetic) (a b : Int64) (exact : Int) : Prop :=
  (∀ n : Int64, Value.arithmetic op (int64 a) (int64 b) = .ok (int64 n) ↔
      n.toInt = exact ∧ ¬Refused op a b) ∧
    (Value.arithmetic op (int64 a) (int64 b) = .error (.resultOutOfRange op) ↔
      ¬InRange exact ∨ Refused op a b)

theorem checked_ok_iff {op : Arithmetic} {result : Option Int64} {n : Int64} :
    checked op int64 result = .ok (int64 n) ↔ result = some n := by
  cases result <;> simp

theorem checked_error_iff {op : Arithmetic} {result : Option Int64} :
    checked op int64 result = .error (.resultOutOfRange op) ↔ result = none := by
  cases result <;> simp

theorem sum_gives_exact {op : Arithmetic} {a b : Int64} {exact : Int} (other : op ≠ .mod)
    (known : Value.arithmetic op (int64 a) (int64 b) = checked op int64 (int64OfInt exact)) :
    GivesExact op a b exact := by
  have allowed : ¬Refused op a b := fun refused => other refused.1
  rw [GivesExact, known, checked_error_iff, int64_of_int_none_iff, or_iff_left allowed]
  refine ⟨fun n => ?_, Iff.rfl⟩
  rw [checked_ok_iff, int64_of_int_some_iff, and_iff_left allowed]

theorem arithmetic_mod {a b : Int64} (nonzero : b ≠ 0) :
    Value.arithmetic .mod (int64 a) (int64 b) = checked .mod int64 (intMod a b) :=
  if_neg nonzero

theorem mod_gives_exact {a b : Int64} {exact : Int} (floored : FlooredRemainder a.toInt b.toInt exact) :
    GivesExact .mod a b exact := by
  have nonzero : b ≠ 0 := fun zero => floored.divisor_ne_zero (Int64.toInt_inj.mpr zero)
  rw [GivesExact, arithmetic_mod nonzero, checked_error_iff]
  simp only [checked_ok_iff]
  by_cases refused : Refused .mod a b
  · obtain ⟨-, rfl, rfl⟩ := refused
    simp [int_mod_least, Refused]
  · obtain ⟨r, known, result⟩ := int_mod_floored nonzero fun pair => refused ⟨rfl, pair⟩
    have same : r.toInt = exact := result.unique floored
    subst same
    rw [known]
    simp [refused, int64_in_range, Int64.toInt_inj, eq_comm]

theorem checked_not_division {op : Arithmetic} {result : Option Int64} :
    checked op int64 result ≠ .error .divisionByZero := by
  cases result <;> simp

theorem division_by_zero_iff (op : Arithmetic) (a b : Int64) :
    Value.arithmetic op (int64 a) (int64 b) = .error .divisionByZero ↔
      b = 0 ∧ (op = .div ∨ op = .mod) := by
  cases op with
  | add | sub | mul => exact iff_of_false checked_not_division (by simp)
  | div =>
      rw [and_iff_left (.inl rfl), arithmetic, intArithmetic]
      split
      · rename_i zero
        exact iff_of_true rfl zero
      · rename_i nonzero
        exact iff_of_false nofun nonzero
  | mod =>
      rw [and_iff_left (.inr rfl), arithmetic, intArithmetic]
      split
      · rename_i zero
        exact iff_of_true rfl zero
      · rename_i nonzero
        exact iff_of_false checked_not_division nonzero

/-- Sums, differences, products and remainders of INT64 values are the exact ones where INT64 holds them,
and overflow elsewhere; a remainder also overflows where the quotient does. Division and remainder by zero,
and nothing else, are divisions by zero. -/
theorem whole_numbers_are_checked (a b : Int64) :
    (∀ op exact, Exact a.toInt b.toInt op exact → GivesExact op a b exact) ∧
      (b ≠ 0 → ∃ r, Exact a.toInt b.toInt .mod r) ∧
      ∀ op, Value.arithmetic op (int64 a) (int64 b) = .error .divisionByZero ↔
        b = 0 ∧ (op = .div ∨ op = .mod) := by
  refine ⟨?_, ?_, ?_⟩
  · intro op exact defined
    cases defined with
    | add => exact sum_gives_exact nofun rfl
    | sub => exact sum_gives_exact nofun rfl
    | mul => exact sum_gives_exact nofun rfl
    | mod floored => exact mod_gives_exact floored
  · intro nonzero
    exact ⟨_, .mod (truncated_floored a.toInt fun zero => nonzero (Int64.toInt_inj.mp zero))⟩
  · exact fun op => division_by_zero_iff op a b

/-- Zero is the remainder of the least INT64 by minus one, and it is that of the same decimals. -/
theorem least_remainder_is_refused :
    Exact Int64.minValue.toInt (-1 : Int64).toInt .mod 0 ∧ InRange 0 ∧
      Value.arithmetic .mod (int64 Int64.minValue) (int64 (-1)) = .error (.resultOutOfRange .mod) ∧
      Value.arithmetic .mod (numeric (.ofInt64 Int64.minValue)) (numeric (.ofInt64 (-1))) =
        .ok (numeric .zero) := by
  refine ⟨.mod ⟨⟨9223372036854775808, by decide⟩, .inr (by decide)⟩, ⟨by decide, by decide⟩, rfl, rfl⟩

end Value

end QueryCheck

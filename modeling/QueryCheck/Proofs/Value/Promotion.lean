import QueryCheck.Proofs.Value.Families
import QueryCheck.Proofs.Value.Remainders
import QueryCheck.Proofs.Value.WholeNumbers

/-!
# Promotion of whole numbers

A whole number may be written as any decimal of the same value, on either side of an operation: results
that INT64 holds and comparisons stay the same.
-/

namespace QueryCheck.Value

open Condition (Arithmetic Comparison)

set_option autoImplicit false

/-- Two whole numbers of which one or both are written as decimals -/
def promotions (a b : Int64) (x y : Decimal) : List (Value × Value) :=
  [(numeric x, int64 b), (int64 a, numeric y), (numeric x, numeric y)]

section Operands

variable {a b : Int64} {x y : Decimal}

theorem promoted_operands (first : x.value = a.toInt) (second : y.value = b.toInt) {pair : Value × Value}
    (promoted : pair ∈ promotions a b x y) :
    ∃ p q, pair.1.toDecimal? = some p ∧ pair.2.toDecimal? = some q ∧ p.value = a.toInt ∧
      q.value = b.toInt ∧ (pair.1.kind = .numeric ∨ pair.2.kind = .numeric) := by
  simp only [promotions, List.mem_cons, List.not_mem_nil, or_false] at promoted
  rcases promoted with rfl | rfl | rfl
  · exact ⟨x, _, rfl, rfl, first, Decimal.value_of_int64 b, .inl rfl⟩
  · exact ⟨_, y, rfl, rfl, Decimal.value_of_int64 a, second, .inr rfl⟩
  · exact ⟨x, y, rfl, rfl, first, second, .inl rfl⟩

/-! ## Arithmetic -/

theorem int_of_checked {op : Arithmetic} {m : Int} {n : Int64}
    (known : checked op int64 (int64OfInt m) = .ok (int64 n)) : (Decimal.ofInt64 n).value = (m : ℚ) := by
  rw [Decimal.value_of_int64, int64_of_int_some_iff.mp (checked_ok_iff.mp known)]

theorem checked_exact {op : Arithmetic} {result : Option Decimal} {exact : ℚ} {n : Int64}
    (held : (Decimal.ofInt64 n).value = exact) (fits : ∃ d, result = some d ∧ d.value = exact) :
    ∃ d, checked op numeric result = .ok (numeric d) ∧ d.value = n.toInt := by
  obtain ⟨d, rfl, value⟩ := fits
  exact ⟨d, rfl, by rw [value, ← held, Decimal.value_of_int64]⟩

theorem decimal_mod_of_int_mod {n : Int64} (first : x.value = a.toInt) (second : y.value = b.toInt)
    (nonzero : b ≠ 0) (known : intMod a b = some n) :
    ∃ d, decimalMod x y = some d ∧ d.value = n.toInt := by
  have floored : FlooredRemainder x.value y.value (n.toInt : ℚ) := by
    rw [first, second]
    exact (floored_of_int_mod nonzero known).cast
  obtain ⟨d, exact, rest, other, -, rounded⟩ := decimal_mod_rounded x floored.divisor_ne_zero
  have same : (Decimal.ofInt64 n).value = exact := by
    rw [Decimal.value_of_int64, floored.unique other]
  exact ⟨d, rest, (rounded.exact_of_held ⟨_, same⟩).trans (other.unique floored)⟩

theorem decimal_arithmetic_of_int {op : Arithmetic} {n : Int64} (first : x.value = a.toInt)
    (second : y.value = b.toInt) (known : Value.arithmetic op (int64 a) (int64 b) = .ok (int64 n)) :
    ∃ d, decimalArithmetic op x y = .ok (numeric d) ∧ d.value = n.toInt := by
  cases op with
  | add =>
      have sum := int_of_checked known
      rw [Int.cast_add, ← first, ← second] at sum
      exact checked_exact sum (Decimal.add_exact sum)
  | sub =>
      have difference := int_of_checked known
      rw [Int.cast_sub, ← first, ← second] at difference
      exact checked_exact difference (Decimal.sub_exact difference)
  | mul =>
      have product := int_of_checked known
      rw [Int.cast_mul, ← first, ← second] at product
      exact checked_exact product (Decimal.mul_exact product)
  | div =>
      rw [arithmetic, intArithmetic] at known
      split at known <;> cases known
  | mod =>
      by_cases zero : b = 0
      · rw [arithmetic, intArithmetic, if_pos zero] at known
        cases known
      · rw [arithmetic_mod zero, checked_ok_iff] at known
        have nonzero : y.value ≠ 0 := by
          rw [second, Int.cast_ne_zero]
          exact fun same => zero (Int64.toInt_inj.mp same)
        rw [decimalArithmetic, if_neg (by rwa [Decimal.is_zero_iff])]
        exact checked_exact (Decimal.value_of_int64 n) (decimal_mod_of_int_mod first second zero known)

/-! ## Comparisons -/

theorem compare_of_orders {op : Comparison} {left right other another : Value} {found : Option Ordering}
    (plain : op ∉ [Comparison.isIn, .notIn]) (first : left.order right = .ok found)
    (second : other.order another = .ok found) :
    Value.compare op left right = Value.compare op other another := by
  have same : left.equal right = other.equal another := by
    rw [equal_of_order first, equal_of_order second]
  cases op with
  | equal => exact congrArg Except.ok same
  | identical => exact congrArg Except.ok same
  | notEqual => exact congrArg (fun found => Except.ok !found) same
  | notIdentical => exact congrArg (fun found => Except.ok !found) same
  | isIn => exact absurd List.mem_cons_self plain
  | notIn => exact absurd (List.mem_cons_of_mem _ List.mem_cons_self) plain
  | _ => exact (ordered_found _ _ first).trans (ordered_found _ _ second).symm

end Operands

/-- Writing one or both of two INT64 values as decimals of the same values changes neither a result that
is an INT64 nor a comparison other than membership. -/
theorem promotion_keeps_results {a b : Int64} {x y : Decimal} (first : x.value = a.toInt)
    (second : y.value = b.toInt) :
    ∀ pair ∈ promotions a b x y,
      (∀ op n, Value.arithmetic op (int64 a) (int64 b) = .ok (int64 n) →
        ∃ d, Value.arithmetic op pair.1 pair.2 = .ok (numeric d) ∧ d.value = n.toInt) ∧
      ∀ op ∉ [Comparison.isIn, .notIn],
        Value.compare op pair.1 pair.2 = Value.compare op (int64 a) (int64 b) := by
  intro pair promoted
  obtain ⟨p, q, left, right, leftValue, rightValue, mixed⟩ := promoted_operands first second promoted
  constructor
  · intro op n known
    rw [arithmetic_of_decimals op left right mixed]
    exact decimal_arithmetic_of_int leftValue rightValue known
  · intro op plain
    have order : pair.1.order pair.2 = .ok (some (cmp (a.toInt : ℚ) b.toInt)) :=
      order_of_rationals (by rw [rational_eq, left, ← leftValue]; rfl)
        (by rw [rational_eq, right, ← rightValue]; rfl)
    exact compare_of_orders plain order (order_of_rationals rfl rfl)

def wideSeven : Decimal := ⟨true, 70000, 4, by decide, by decide⟩

theorem wide_results_kept :
    wideSeven.value = (-7 : Int64).toInt ∧ (Decimal.ofInt64 3).value = (3 : Int64).toInt ∧
      (numeric wideSeven, int64 3) ∈ promotions (-7) 3 wideSeven (.ofInt64 3) ∧
      Value.arithmetic .mod (int64 (-7)) (int64 3) = .ok (int64 2) ∧
      (∃ d, Value.arithmetic .mod (numeric wideSeven) (int64 3) = .ok (numeric d) ∧
        d.value = (2 : Int64).toInt) ∧
      Comparison.less ∉ [Comparison.isIn, .notIn] ∧
      Value.compare .less (numeric wideSeven) (int64 3) = Value.compare .less (int64 (-7)) (int64 3) := by
  have seven : wideSeven.value = (-7 : Int64).toInt := by
    have whole : (-7 : Int64).toInt = -7 := rfl
    norm_num [whole, Decimal.value_eq_quotient, Decimal.quotient, Decimal.sign, wideSeven]
  have three : (Decimal.ofInt64 3).value = (3 : Int64).toInt := Decimal.value_of_int64 3
  have promoted : (numeric wideSeven, int64 3) ∈ promotions (-7) 3 wideSeven (.ofInt64 3) :=
    List.mem_cons_self
  have rest : Value.arithmetic .mod (int64 (-7)) (int64 3) = .ok (int64 2) := rfl
  have plain : Comparison.less ∉ [Comparison.isIn, .notIn] := by decide
  obtain ⟨results, comparisons⟩ := promotion_keeps_results seven three _ promoted
  exact ⟨seven, three, promoted, rest, results _ _ rest, plain, comparisons _ plain⟩

end QueryCheck.Value

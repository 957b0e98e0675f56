import Mathlib.Data.List.TakeWhile
import Mathlib.Tactic.Ring
import QueryCheck.Number.Digits
import QueryCheck.Text.Basic

/-!
# Values of digits

A run of digits denotes a number below the power of ten that has one zero for each of them, and is taken
whole off a text. A number that is written in base ten, with zeros in front or without, is read back.
-/

namespace QueryCheck

set_option autoImplicit false

theorem digit_code {c : Char} (digit : c.isDigit = true) : 48 ≤ c.toNat ∧ c.toNat ≤ 57 := by
  rw [Char.isDigit, Bool.and_eq_true, decide_eq_true_iff, decide_eq_true_iff] at digit
  exact ⟨UInt32.le_iff_toNat_le.mp digit.1, UInt32.le_iff_toNat_le.mp digit.2⟩

theorem digit_value_lt {c : Char} (digit : c.isDigit = true) : digitValue c < 10 := by
  have upper := (digit_code digit).2
  change c.toNat - 48 < 10
  omega

theorem digit_not_blank {c : Char} (digit : c.isDigit = true) : Text.isWhitespace c = false := by
  obtain ⟨lower, upper⟩ := digit_code digit
  rw [Text.isWhitespace, ← Bool.not_eq_true]
  simp only [Bool.or_eq_true, decide_eq_true_eq, beq_iff_eq]
  omega

theorem of_digits_from (start : Nat) (digits : List Char) :
    digits.foldl (fun value c => value * 10 + digitValue c) start =
      start * 10 ^ digits.length + ofDigits digits := by
  induction digits generalizing start with
  | nil => simp [ofDigits]
  | cons c rest induction =>
      rw [ofDigits, List.foldl_cons, List.foldl_cons, induction, induction, List.length_cons]
      ring

theorem of_digits_cons (c : Char) (rest : List Char) :
    ofDigits (c :: rest) = digitValue c * 10 ^ rest.length + ofDigits rest := by
  rw [ofDigits, List.foldl_cons, of_digits_from, Nat.zero_mul, Nat.zero_add]

theorem of_digits_append (first second : List Char) :
    ofDigits (first ++ second) = ofDigits first * 10 ^ second.length + ofDigits second := by
  rw [ofDigits, List.foldl_append, of_digits_from]
  rfl

theorem of_digits_lt {digits : List Char} (all : ∀ c ∈ digits, c.isDigit = true) :
    ofDigits digits < 10 ^ digits.length := by
  induction digits with
  | nil => decide
  | cons c rest induction =>
      obtain ⟨digit, others⟩ := List.forall_mem_cons.mp all
      have leading := Nat.mul_le_mul_right (10 ^ rest.length) (Nat.le_of_lt_succ (digit_value_lt digit))
      have below := induction others
      rw [of_digits_cons, List.length_cons, pow_succ]
      omega

theorem of_digits_of_leading_zeros (digits : List Char) :
    ofDigits digits = ofDigits (digits.dropWhile (· == '0')) := by
  induction digits with
  | nil => rfl
  | cons c rest induction =>
      rw [List.dropWhile_cons]
      split
      · rename_i zero
        rw [of_digits_cons, beq_iff_eq.mp zero, ← induction]
        exact (congrArg (· + ofDigits rest) (Nat.zero_mul _)).trans (Nat.zero_add _)
      · rfl

theorem span_digits_append (digits rest : List Char) (all : ∀ c ∈ digits, c.isDigit = true)
    (stops : ∀ c, rest.head? = some c → c.isDigit = false) :
    spanDigits (digits ++ rest) = (digits, rest) := by
  unfold spanDigits
  rw [List.takeWhile_append_of_pos all, List.dropWhile_append_of_pos all]
  cases rest with
  | nil => simp
  | cons c rest => simp [stops c rfl]

/-! ## Numbers in base ten -/

theorem nat_text_digits (n : Nat) : ∀ c ∈ natText n, c.isDigit = true :=
  fun _ member => Nat.isDigit_of_mem_toDigits (by decide) (by decide) member

theorem of_digits_nat_text (n : Nat) : ofDigits (natText n) = n := by
  have same : ofDigits (natText n) = Nat.ofDigitChars 10 (Nat.toDigits 10 n) 0 := by
    simp only [ofDigits, natText, Nat.ofDigitChars, digitValue, Nat.mul_comm]
  rw [same, Nat.ofDigitChars_ten_toDigits]

theorem read_nat_text (n : Nat) : readNat (natText n) = some n := by
  unfold readNat
  rw [if_pos ⟨by simp [natText], List.all_eq_true.mpr (nat_text_digits n)⟩, of_digits_nat_text]

/-! ## Padded numbers -/

theorem padded_digits (width n : Nat) : ∀ c ∈ paddedText width n, c.isDigit = true := by
  intro c member
  rcases List.mem_append.mp member with zero | digit
  · rw [List.eq_of_mem_replicate zero]
    rfl
  · exact nat_text_digits n c digit

theorem of_digits_zeros (count : Nat) : ofDigits (List.replicate count '0') = 0 := by
  induction count with
  | zero => rfl
  | succ count induction =>
      rw [List.replicate_succ, of_digits_cons, induction]
      exact Nat.zero_mul _

theorem of_digits_padded (width n : Nat) : ofDigits (paddedText width n) = n := by
  unfold paddedText
  rw [of_digits_append, of_digits_zeros, Nat.zero_mul, Nat.zero_add, of_digits_nat_text]

theorem padded_length {width n : Nat} (positive : 0 < width) (small : n < 10 ^ width) :
    (paddedText width n).length = width := by
  have short : (natText n).length ≤ width :=
    (Nat.length_toDigits_le_iff (by decide) positive).mpr small
  rw [paddedText, List.length_append, List.length_replicate, Nat.sub_add_cancel short]

end QueryCheck

import QueryCheck.Number.Decimal.Reader
import QueryCheck.Proofs.Number.NearestDecimal
import QueryCheck.Proofs.Number.Numerals

/-!
# Reading plain numerals

Digits are taken as long as they have room in a decimal. The first digit behind the point that has none
rounds the number and ends the reading, whatever stands behind it.
-/

namespace QueryCheck.Decimal

set_option autoImplicit false

namespace Reading

variable {r : Reading} {negative : Bool} {c : Char} {digits rest : List Char}

/-! ## Taking digits -/

theorem push_all_coefficient (r : Reading) (digits : List Char) :
    (digits.foldl push r).coefficient = r.coefficient * 10 ^ digits.length + ofDigits digits := by
  induction digits generalizing r with
  | nil => simp [ofDigits]
  | cons c more induction =>
      rw [List.foldl_cons, induction, of_digits_cons, List.length_cons, push]
      ring

theorem push_all (r : Reading) (digits : List Char) (started : r.sawPoint = false → r.scale = 0) :
    digits.foldl push r =
      ⟨r.coefficient * 10 ^ digits.length + ofDigits digits,
        if r.sawPoint then r.scale + digits.length else 0, r.sawDigit || !digits.isEmpty,
        r.sawPoint⟩ := by
  induction digits generalizing r with
  | nil =>
      cases r with
      | mk coefficient scale sawDigit sawPoint =>
          cases sawPoint with
          | false => simp_all [ofDigits]
          | true => simp [ofDigits]
  | cons c more induction =>
      have next : (r.push c).sawPoint = false → (r.push c).scale = 0 := fun before => by
        have before : r.sawPoint = false := before
        rw [push, before]
        rfl
      have coefficient := push_all_coefficient r (c :: more)
      rw [List.foldl_cons, push_all_coefficient] at coefficient
      rw [List.foldl_cons, induction _ next, coefficient]
      cases point : r.sawPoint <;> simp [push, point, Nat.add_assoc, Nat.add_comm 1]

theorem push_all_grows (r : Reading) (digits : List Char) :
    r.coefficient ≤ (digits.foldl push r).coefficient := by
  rw [push_all_coefficient]
  exact (Nat.le_mul_of_pos_right _ (Nat.pow_pos (by decide))).trans (Nat.le_add_right _ _)

theorem run_digit (digit : c.isDigit = true) (room : r.sawPoint = true → r.scale < 28) :
    r.run negative (c :: rest) =
      if coefficientBound ≤ (r.push c).coefficient then
        if r.sawPoint then r.roundedBy negative (digitValue c) else none
      else (r.push c).run negative rest := by
  have open_ : ¬(r.sawPoint && decide (r.scale = 28)) = true := by
    rw [Bool.and_eq_true, decide_eq_true_iff]
    intro filled
    exact absurd (room filled.1) (filled.2 ▸ Nat.lt_irrefl 28)
  rw [run, if_neg open_, if_pos digit]

/-- Digits that have room are all taken. -/
theorem run_digits (all : ∀ c ∈ digits, c.isDigit = true)
    (short : (digits.foldl push r).coefficient < coefficientBound)
    (room : r.sawPoint = true → r.scale + digits.length ≤ 28) :
    r.run negative (digits ++ rest) = (digits.foldl push r).run negative rest := by
  induction digits generalizing r with
  | nil => rfl
  | cons c more induction =>
      obtain ⟨digit, others⟩ := List.forall_mem_cons.mp all
      rw [List.length_cons] at room
      rw [List.foldl_cons] at short
      have small := (push_all_grows (r.push c) more).trans_lt short
      rw [List.cons_append, run_digit digit fun point => by have := room point; omega,
        if_neg (Nat.not_le.mpr small), List.foldl_cons]
      refine induction (r := r.push c) others short fun point => ?_
      have places := room point
      have scale : (r.push c).scale = r.scale + 1 := if_pos point
      omega

/-- Digits before the point have no room once they outgrow 96 bits. -/
theorem run_long_whole (all : ∀ c ∈ digits, c.isDigit = true) (before : r.sawPoint = false)
    (short : r.coefficient < coefficientBound)
    (long : coefficientBound ≤ (digits.foldl push r).coefficient) :
    r.run negative (digits ++ rest) = none := by
  induction digits generalizing r with
  | nil => exact absurd long (Nat.not_le.mpr short)
  | cons c more induction =>
      obtain ⟨digit, others⟩ := List.forall_mem_cons.mp all
      rw [List.cons_append, run_digit digit fun point => by rw [before] at point; cases point]
      split
      · rw [before]
        rfl
      · rename_i small
        exact induction (r := r.push c) others before (Nat.not_le.mp small) long

/-! ## The first digit without room -/

theorem drop_digit (digit : c.isDigit = true) :
    r.drop negative (c :: rest) = r.roundedBy negative (digitValue c) := by
  unfold drop
  split
  · rename_i same
    cases same
    cases digit
  · rename_i same
    cases same
    cases digit
  · rename_i same
    cases same
    rw [dropChar, if_pos digit]
  · rename_i same
    cases same

theorem rounded_by_reads {more : List Char} (digit : c.isDigit = true)
    (others : ∀ c ∈ more, c.isDigit = true) (short : r.coefficient < coefficientBound)
    (places : r.scale ≤ 28)
    (full : r.scale = 28 ∨ coefficientBound ≤ (r.push c).coefficient) :
    ReadAs (quotient negative ((c :: more).foldl push r).coefficient (r.scale + (more.length + 1)))
      (r.roundedBy negative (digitValue c)) := by
  have magnitude : ((c :: more).foldl push r).coefficient =
      (r.coefficient * 10 + digitValue c) * 10 ^ more.length + ofDigits more :=
    push_all_coefficient (r.push c) more
  have rounds := rounds_half_up r.coefficient (digit_value_lt digit) (of_digits_lt others)
  have filled : r.scale = 28 ∨ coefficientBound * (2 * 10 ^ (more.length + 1)) ≤
      20 * ((c :: more).foldl push r).coefficient + 10 ^ (more.length + 1) := by
    refine full.imp_right fun long => ?_
    have scaled := Nat.mul_le_mul_right (20 * 10 ^ more.length) long
    change _ ≤ (r.coefficient * 10 + digitValue c) * _ at scaled
    rw [magnitude, pow_succ]
    linarith
  rw [← magnitude, ← pow_succ] at rounds
  rw [roundedBy]
  by_cases less : digitValue c < 5
  · rw [if_pos less] at rounds ⊢
    exact of_parts_reads negative rounds short places filled
  · rw [if_neg less] at rounds ⊢
    split
    · rename_i next
      exact of_parts_reads negative rounds next places filled
    · rename_i outgrown
      have last : r.coefficient + 1 = coefficientBound := by omega
      have kept : (r.coefficient + 5) / 10 = (coefficientBound + 4) / 10 := by rw [← last]
      rw [last] at rounds
      rw [kept]
      exact outgrown_reads negative rounds places

/-- Digits behind the point are taken up to the first one without room. -/
theorem run_long_fraction (negative : Bool) (all : ∀ c ∈ digits, c.isDigit = true) (point : r.sawPoint = true)
    (short : r.coefficient < coefficientBound) (places : r.scale ≤ 28)
    (long : ¬((digits.foldl push r).coefficient < coefficientBound ∧ r.scale + digits.length ≤ 28)) :
    ∃ result,
      ReadAs (quotient negative (digits.foldl push r).coefficient (r.scale + digits.length)) result ∧
      ∀ rest, r.run negative (digits ++ rest) = result := by
  induction digits generalizing r with
  | nil => exact absurd ⟨short, places⟩ long
  | cons c more induction =>
      obtain ⟨digit, others⟩ := List.forall_mem_cons.mp all
      by_cases filled : r.scale = 28
      · refine ⟨_, rounded_by_reads digit others short places (.inl filled), fun rest => ?_⟩
        rw [List.cons_append, run, if_pos (by rw [point, filled]; rfl), drop_digit digit]
      · have room : r.scale < 28 := by omega
        by_cases outgrown : coefficientBound ≤ (r.push c).coefficient
        · refine ⟨_, rounded_by_reads digit others short places (.inr outgrown), fun rest => ?_⟩
          rw [List.cons_append, run_digit digit fun _ => room, if_pos outgrown, if_pos point]
        · have scale : (r.push c).scale = r.scale + 1 := if_pos point
          have total : (r.push c).scale + more.length = r.scale + (more.length + 1) := by omega
          obtain ⟨result, reads, ran⟩ := induction (r := r.push c) others point
            (Nat.not_le.mp outgrown) (by omega) (by rwa [total])
          refine ⟨result, ?_, fun rest => ?_⟩
          · rwa [total] at reads
          · rw [List.cons_append, run_digit digit fun _ => room, if_neg outgrown, ran rest]

end Reading

/-! ## Mantissas -/

open Reading

/-- What has been read behind a mantissa that fits -/
def mantissaReading (m : Mantissa) : Reading :=
  ⟨ofDigits m.digits, m.fraction.length, true, m.behind.isSome⟩

variable {m : Mantissa} {negative : Bool}

theorem run_point {r : Reading} {rest : List Char} (before : r.sawPoint = false) :
    r.run negative ('.' :: rest) = { r with sawPoint := true }.run negative rest := by
  rw [run, before]
  rfl

/-- What has been read at the point of a mantissa -/
def pointReading (m : Mantissa) : Reading :=
  ⟨ofDigits m.whole, 0, !m.whole.isEmpty, true⟩

theorem whole_reading (digits : List Char) :
    digits.foldl push start = ⟨ofDigits digits, 0, !digits.isEmpty, false⟩ := by
  rw [push_all _ _ fun _ => rfl]
  simp [start]

theorem fraction_of_behind {digits : List Char} (behind : m.behind = some digits) : m.fraction = digits := by
  rw [Mantissa.fraction, behind]
  rfl

theorem fraction_reading {digits : List Char} (behind : m.behind = some digits) :
    digits.foldl push (pointReading m) = mantissaReading m := by
  have fraction := fraction_of_behind behind
  have nonempty : ¬(m.whole = [] ∧ digits = []) := by
    have nonempty := m.nonempty
    rwa [behind, ne_eq, List.append_eq_nil_iff] at nonempty
  have sawDigit : (!m.whole.isEmpty || !digits.isEmpty) = true := by
    rwa [← Bool.not_and, Bool.not_eq_true', ← Bool.not_eq_true, Bool.and_eq_true, List.isEmpty_iff,
      List.isEmpty_iff]
  rw [push_all _ _ (by rintro ⟨⟩), mantissaReading, Mantissa.digits, fraction, of_digits_append, behind,
    pointReading, sawDigit]
  simp

theorem whole_mantissa (behind : m.behind = none) :
    m.digits = m.whole ∧ mantissaReading m = m.whole.foldl push start := by
  have fraction : m.fraction = [] := by rw [Mantissa.fraction, behind]; rfl
  have whole : m.digits = m.whole := by rw [Mantissa.digits, fraction, List.append_nil]
  have nonempty : m.whole ≠ [] := by
    have nonempty := m.nonempty
    rwa [behind, Option.getD_none, List.append_nil] at nonempty
  refine ⟨whole, ?_⟩
  rw [mantissaReading, whole, fraction, behind, whole_reading]
  simp [nonempty]

theorem whole_le (m : Mantissa) : ofDigits m.whole * 10 ^ m.fraction.length ≤ ofDigits m.digits := by
  rw [Mantissa.digits, of_digits_append]
  exact Nat.le_add_right _ _

theorem whole_short (fits : m.Fits) : (m.whole.foldl push start).coefficient < coefficientBound := by
  rw [whole_reading]
  exact ((Nat.le_mul_of_pos_right _ (Nat.pow_pos (by decide))).trans (whole_le m)).trans_lt fits.1

theorem run_to_point {digits rest : List Char} (behind : m.behind = some digits)
    (short : (m.whole.foldl push start).coefficient < coefficientBound) :
    start.run negative (m.whole ++ m.pointText ++ rest) = (pointReading m).run negative (digits ++ rest) := by
  rw [List.append_assoc, run_digits m.whole_digits short (by rintro ⟨⟩), whole_reading,
    Mantissa.pointText, behind, List.cons_append, run_point rfl]
  rfl

/-- The digits of a mantissa that fits are all taken. -/
theorem run_of_fits (fits : m.Fits) (rest : List Char) :
    start.run negative (m.whole ++ m.pointText ++ rest) = (mantissaReading m).run negative rest := by
  cases behind : m.behind with
  | none =>
      obtain ⟨-, reading⟩ := whole_mantissa behind
      rw [reading, Mantissa.pointText, behind, List.append_nil]
      exact run_digits m.whole_digits (whole_short fits) (by rintro ⟨⟩)
  | some digits =>
      have all := m.behind_digits
      rw [behind, Option.getD_some] at all
      rw [run_to_point behind (whole_short fits), run_digits all, fraction_reading behind]
      · rw [fraction_reading behind]
        exact fits.1
      · intro _
        rw [← fraction_of_behind behind]
        exact (Nat.zero_add _).trans_le fits.2

/-- A mantissa that does not fit is rounded, and what stands behind it is not looked at. -/
theorem run_of_not_fits (negative : Bool) (overfull : ¬m.Fits) :
    ∃ result, ReadAs (quotient negative (ofDigits m.digits) m.fraction.length) result ∧
      ∀ rest, start.run negative (m.whole ++ m.pointText ++ rest) = result := by
  by_cases short : (m.whole.foldl push start).coefficient < coefficientBound
  · cases behind : m.behind with
    | none =>
        obtain ⟨whole, -⟩ := whole_mantissa behind
        rw [whole_reading] at short
        refine absurd ⟨by rwa [whole], ?_⟩ overfull
        rw [Mantissa.fraction, behind]
        exact Nat.zero_le 28
    | some digits =>
        have all := m.behind_digits
        rw [behind, Option.getD_some] at all
        have read := fraction_reading behind
        have fraction := fraction_of_behind behind
        have shortPoint : (pointReading m).coefficient < coefficientBound := by
          rwa [whole_reading] at short
        obtain ⟨result, reads, ran⟩ := run_long_fraction negative all rfl shortPoint
          (Nat.zero_le 28) (by
            rw [read, ← fraction]
            exact fun fits => overfull ⟨fits.1, (Nat.zero_add _).symm.trans_le fits.2⟩)
        refine ⟨result, ?_, fun rest => ?_⟩
        · rw [read] at reads
          rw [fraction]
          exact (Nat.zero_add digits.length) ▸ reads
        · rw [run_to_point behind short, ran rest]
  · refine ⟨none, ?_, fun rest => ?_⟩
    · have long : coefficientBound ≤ ofDigits m.whole := by
        rw [whole_reading] at short
        exact Nat.not_lt.mp short
      have size : (coefficientBound * 10 ^ m.fraction.length : ℚ) ≤ ofDigits m.digits := by
        exact_mod_cast (Nat.mul_le_mul_right _ long).trans (whole_le m)
      rw [ReadAs, abs_quotient, le_div_iff₀ (unit_pos _)]
      have unit := unit_pos m.fraction.length
      generalize (coefficientBound : ℚ) = bound at size ⊢
      linarith
    · rw [List.append_assoc]
      exact run_long_whole m.whole_digits rfl (by decide) (Nat.not_lt.mp short)

end QueryCheck.Decimal

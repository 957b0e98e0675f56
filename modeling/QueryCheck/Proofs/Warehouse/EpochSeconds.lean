import QueryCheck.Proofs.Calendar
import QueryCheck.Proofs.Number.ScientificNumerals
import QueryCheck.Warehouse.Cell

/-!
# Instants of cells

A cell that counts whole microseconds in seconds since the epoch is read as exactly its instant, before
1970 as after it. A count outside the calendar has no timestamp.
-/

namespace QueryCheck

set_option autoImplicit false

namespace Decimal

theorem truncate_of_whole {d : Decimal} {z : ℤ} (whole : d.value = z) : d.truncate = z := by
  have size : d.coefficient = z.natAbs * 10 ^ d.scale := by
    have scaled := d.scaled_value
    rw [whole, ← Int.cast_abs, Int.abs_eq_natAbs] at scaled
    exact_mod_cast scaled.symm
  have kept : (d.coefficient : ℤ) / (Nat.pow 10 d.scale : ℕ) = z.natAbs := by
    rw [size]
    exact_mod_cast Nat.mul_div_cancel z.natAbs (Nat.pow_pos (n := d.scale) (by decide : 0 < 10))
  have side : (z : ℚ) = sign d.negative * z.natAbs := by
    have places := quotient_extend d.negative z.natAbs 0 d.scale
    rw [Nat.zero_add, ← size, ← value_eq_quotient, whole] at places
    rw [places, quotient, pow_zero, div_one]
  rw [Nat.cast_natAbs] at side
  rw [truncate, kept, Int.natCast_natAbs]
  cases negative : d.negative with
  | false =>
      rw [negative, sign, if_neg Bool.false_ne_true, one_mul] at side
      rw [if_neg Bool.false_ne_true]
      exact_mod_cast side.symm
  | true =>
      rw [negative, sign, if_pos rfl, neg_one_mul] at side
      rw [if_pos rfl]
      exact_mod_cast side.symm

theorem whole_lt {d : Decimal} {z : ℤ} (whole : d.value = z) : |z| < coefficientBound := by
  have size := d.value_le_coefficient
  have largest := d.coefficient_le
  rw [whole] at size
  have short : (|z| : ℚ) < coefficientBound := by linarith
  exact_mod_cast short

end Decimal

namespace Warehouse

open Decimal (coefficientBound Nearest ReadAs)

theorem of_instant_some_iff {z : ℤ} {ts : Timestamp} :
    Timestamp.ofInstant? z = some ts ↔ ts.offset = 0 ∧ ts.instant = z := by
  rw [Timestamp.ofInstant?, Option.map_eq_some_iff]
  constructor
  · rintro ⟨civil, made, rfl⟩
    refine ⟨rfl, ?_⟩
    rw [Timestamp.instant, ← (DateTime.of_nanos_some z civil).mp made, Timestamp.atUtc, Int.zero_mul,
      Int.sub_zero]
  · rintro ⟨utc, same⟩
    refine ⟨ts.civil, ?_, ?_⟩
    · rw [DateTime.of_nanos_some, ← same, Timestamp.instant, utc, Int.zero_mul, Int.sub_zero]
    · rw [Timestamp.atUtc, ← utc]

theorem of_instant_none_iff (z : ℤ) :
    Timestamp.ofInstant? z = none ↔ z < DateTime.earliest.nanos ∨ DateTime.latest.nanos < z := by
  have range := DateTime.exists_nanos z
  simp only [← DateTime.of_nanos_some, ← Option.isSome_iff_exists] at range
  rw [Timestamp.ofInstant?, Option.map_eq_none_iff, ← Option.not_isSome_iff_eq_none, range]
  omega

theorem of_counted_of_fits {z : ℤ} (lower : -(int64Bound : ℤ) ≤ z / TimeOfDay.nanosPerSecond)
    (upper : z / TimeOfDay.nanosPerSecond < int64Bound) :
    Timestamp.ofCounted? z = Timestamp.ofInstant? z := by
  rw [Timestamp.ofCounted?, Int64.toInt_ofInt_of_le lower upper, Int.ediv_mul_add_emod]

theorem micros_beyond {m : ℤ} (large : (coefficientBound : ℚ) ≤ |(m : ℚ)| * 1000) :
    ¬|m * 1000| < coefficientBound := by
  rw [abs_mul, not_lt]
  exact_mod_cast large

theorem value_of_thousand_million : (Decimal.ofInt64 1000000000).value = 10 ^ 9 := by
  have whole : (1000000000 : Int64).toInt = 10 ^ 9 := by decide
  rw [Decimal.value_of_int64, whole, Int.cast_pow, Int.cast_ofNat]

/-- The product by a thousand million of what stands for a number of more than 96 bits is too large. -/
theorem nanos_too_large {seconds : Decimal} {m : ℤ} (near : Nearest ((m : ℚ) / 10 ^ 6) seconds)
    (large : (coefficientBound : ℚ) ≤ |(m : ℚ)|) : seconds.mul (.ofInt64 1000000000) = none := by
  by_contra held
  obtain ⟨nanos, product⟩ := Option.ne_none_iff_exists'.mp held
  have off := Decimal.mul_near product
  have size := nanos.value_le_coefficient
  have largest := nanos.coefficient_le
  have apart := near.near.trans (div_le_one_of_le₀ (one_le_pow₀ (by norm_num)) (Decimal.unit_pos _).le)
  have bits : (10 : ℚ) ^ 9 ≤ coefficientBound := by norm_num
  have magnitude : |(m : ℚ) / 10 ^ 6| = |(m : ℚ)| / 10 ^ 6 := by rw [abs_div, abs_of_pos (Decimal.unit_pos 6)]
  have first := abs_sub_abs_le_abs_sub ((m : ℚ) / 10 ^ 6) seconds.value
  have second := abs_sub_abs_le_abs_sub (seconds.value * 10 ^ 9) nanos.value
  rw [abs_sub_comm, magnitude] at first
  rw [abs_sub_comm, abs_mul, abs_of_pos (Decimal.unit_pos 9)] at second
  rw [value_of_thousand_million] at off
  generalize (coefficientBound : ℚ) = bound at largest bits large
  linarith

/-- Whole microseconds lose nothing on the way to nanoseconds, unless these have more than 96 bits. -/
theorem epoch_seconds_of_read {text : List Char} {m : ℤ}
    (read : ReadAs ((m : ℚ) / 10 ^ 6) (Decimal.read? text)) :
    epochSeconds? text =
      if |m * 1000| < coefficientBound then Timestamp.ofCounted? (m * 1000) else none := by
  have steps : epochSeconds? text = (Decimal.read? text).bind fun seconds =>
      (seconds.mul (.ofInt64 1000000000)).bind fun nanos => Timestamp.ofCounted? nanos.truncate := rfl
  rw [steps]
  cases result : Decimal.read? text with
  | none =>
      rw [result] at read
      have large : (coefficientBound : ℚ) - 1 / 2 ≤ |(m : ℚ) / 10 ^ 6| := read
      rw [abs_div, abs_of_pos (Decimal.unit_pos 6)] at large
      rw [if_neg (micros_beyond _), Option.bind_none]
      have bits : (1 : ℚ) ≤ coefficientBound := by norm_num
      generalize (coefficientBound : ℚ) = bound at large bits ⊢
      linarith
  | some seconds =>
      rw [result] at read
      have near : Nearest ((m : ℚ) / 10 ^ 6) seconds := read
      rw [Option.bind_some]
      rcases lt_or_ge |m| coefficientBound with small | large
      · obtain ⟨e, holds⟩ := Decimal.short_held small (by decide : 6 ≤ 28)
        have whole : seconds.value * (Decimal.ofInt64 1000000000).value = (m * 1000 : ℤ) := by
          rw [near.exact_of_held holds, value_of_thousand_million, Int.cast_mul, Int.cast_ofNat]
          ring
        obtain ⟨exact, refused⟩ := Decimal.mul_of_whole whole
        cases product : seconds.mul (.ofInt64 1000000000) with
        | none => rw [if_neg (not_lt.mpr (refused product)), Option.bind_none]
        | some nanos =>
            have value := exact nanos product
            rw [if_pos (Decimal.whole_lt value), Option.bind_some, Decimal.truncate_of_whole value]
      · have large : (coefficientBound : ℚ) ≤ |(m : ℚ)| := by exact_mod_cast large
        rw [nanos_too_large near large, Option.bind_none, if_neg (micros_beyond _)]
        exact large.trans (le_mul_of_one_le_right (abs_nonneg _) (by norm_num))

theorem calendar_fits {z : ℤ} (lower : DateTime.earliest.nanos ≤ z) (upper : z ≤ DateTime.latest.nanos) :
    |z| < coefficientBound ∧ -(int64Bound : ℤ) ≤ z / TimeOfDay.nanosPerSecond ∧
      z / TimeOfDay.nanosPerSecond < int64Bound := by
  have first : DateTime.earliest.nanos = -377705116800000000000 := by decide
  have last : DateTime.latest.nanos = 253402300799999999999 := by decide
  have second : (TimeOfDay.nanosPerSecond : ℤ) = 1000000000 := rfl
  rw [abs_lt, second]
  unfold coefficientBound int64Bound
  omega

/-- Seconds that are whole microseconds, written without an exponent or with one that is read: within the
calendar the timestamp is exactly that instant, at offset zero, and outside it there is none, as far as the
whole seconds fit a signed word of 64 bits. An exponent that is too far is refused whatever the number
is. -/
theorem cell_instants_are_exact {n : Numeral} {m : ℤ} (micros : n.number = (m : ℚ) / 10 ^ 6) :
    (n.Readable →
      (DateTime.earliest.nanos ≤ m * 1000 ∧ m * 1000 ≤ DateTime.latest.nanos →
        ∃ ts, epochSeconds? n.text = some ts ∧ ts.offset = 0 ∧ ts.instant = m * 1000) ∧
      (m * 1000 < DateTime.earliest.nanos ∨ DateTime.latest.nanos < m * 1000 →
        -(int64Bound : ℤ) ≤ m / 10 ^ 6 → m / 10 ^ 6 < int64Bound → epochSeconds? n.text = none)) ∧
      (n.FarExponent → epochSeconds? n.text = none) := by
  have seconds : m * 1000 / (TimeOfDay.nanosPerSecond : ℤ) = m / 10 ^ 6 := by
    rw [Int.mul_comm]
    exact Int.mul_ediv_mul_of_pos m (10 ^ 6) (by decide : (0 : ℤ) < 1000)
  refine ⟨fun readable => ?_, fun far => ?_⟩
  · have read := Decimal.read_numeral readable.not_far
    rw [readable.taken_number, micros] at read
    rw [epoch_seconds_of_read read]
    constructor
    · rintro ⟨lower, upper⟩
      obtain ⟨bits, below, above⟩ := calendar_fits lower upper
      rw [if_pos bits, of_counted_of_fits below above]
      obtain ⟨ts, made⟩ := Option.ne_none_iff_exists'.mp ((of_instant_none_iff (m * 1000)).not.mpr (by omega))
      exact ⟨ts, made, of_instant_some_iff.mp made⟩
    · intro outside below above
      split
      · rw [← seconds] at below above
        rw [of_counted_of_fits below above]
        exact (of_instant_none_iff _).mpr outside
      · rfl
  · rw [epochSeconds?, Decimal.read_far far]
    rfl

/-- A tenth of a millisecond before the year 1 -/
def lastTick : Numeral where
  mantissa := ⟨.minus, ['6'], some "2135596800000100".toList, List.all_eq_true.mp rfl,
    List.all_eq_true.mp rfl, by decide⟩
  exponent := some ⟨'E', .plus, ['1', '0'], .inr rfl, List.all_eq_true.mp rfl, by decide⟩

/-- The first instant of the year 10000 -/
def beyondLast : Numeral where
  mantissa := ⟨.absent, "253402300800".toList, none, List.all_eq_true.mp rfl, nofun, by decide⟩
  exponent := none

theorem last_tick_is_read :
    lastTick.text = "-6.2135596800000100E+10".toList ∧
      lastTick.number = ((-62135596800000100 : ℤ) : ℚ) / 10 ^ 6 ∧ lastTick.Readable ∧
      (∃ ts, epochSeconds? lastTick.text = some ts ∧ ts.offset = 0 ∧
        ts.instant = -62135596800000100 * 1000) ∧
      beyondLast.text = "253402300800".toList ∧
      beyondLast.number = ((253402300800000000 : ℤ) : ℚ) / 10 ^ 6 ∧ beyondLast.Readable ∧
      epochSeconds? beyondLast.text = none := by
  have number : lastTick.number = ((-62135596800000100 : ℤ) : ℚ) / 10 ^ 6 := by
    change Decimal.quotient true 62135596800000100 16 * 10 ^ (10 : ℤ) = _
    rw [Decimal.quotient, Decimal.sign]
    norm_num
  have readable : lastTick.Readable := by
    rintro e ⟨⟩
    exact ⟨lastTick.mantissa.fits_of_significant (by decide) (by decide), by decide⟩
  have whole : beyondLast.number = ((253402300800000000 : ℤ) : ℚ) / 10 ^ 6 := by
    change Decimal.quotient false 253402300800 0 = _
    rw [Decimal.quotient, Decimal.sign]
    norm_num
  have plain : beyondLast.Readable := by
    rintro e ⟨⟩
  exact ⟨by decide, number, readable, ((cell_instants_are_exact number).1 readable).1 (by decide),
    by decide, whole, plain,
    ((cell_instants_are_exact whole).1 plain).2 (.inr (by decide)) (by decide) (by decide)⟩

/-- Ten to the power eleven with an exponent of 29 -/
def farEleventh : Numeral where
  mantissa := .belowOne "000000000000000001".toList (List.all_eq_true.mp rfl)
  exponent := some ⟨'E', .absent, ['2', '9'], .inr rfl, List.all_eq_true.mp rfl, by decide⟩

/-- An instant of the year 5138, written with one digit that counts, is refused. -/
theorem far_eleventh_is_refused :
    farEleventh.text = "0.000000000000000001E29".toList ∧
      farEleventh.number = ((100000000000000000 : ℤ) : ℚ) / 10 ^ 6 ∧
      (∃ civil : DateTime, civil.nanos = 100000000000000000 * 1000 ∧ civil.date.year = 5138) ∧
      epochSeconds? farEleventh.text = none := by
  have number : farEleventh.number = ((100000000000000000 : ℤ) : ℚ) / 10 ^ 6 := by
    change Decimal.quotient false 1 18 * 10 ^ (29 : ℤ) = _
    rw [Decimal.quotient, Decimal.sign]
    norm_num
  refine ⟨by decide, number, ?_, by decide⟩
  exact ⟨⟨⟨5138, 11, 16, by decide, by decide, by decide⟩,
    ⟨9, 46, 40, 0, by decide, by decide, by decide, by decide⟩⟩, by decide, rfl⟩

/-- Sixteen seconds less than two to the power 64 come back as sixteen seconds before the epoch. -/
theorem long_count_wraps :
    (epochSeconds? "1.84467440737095516E19".toList).map Timestamp.instant = some (-16 * 10 ^ 9) := by
  decide

end Warehouse

end QueryCheck

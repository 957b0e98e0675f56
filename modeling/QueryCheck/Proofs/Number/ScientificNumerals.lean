import Mathlib.Data.List.TakeWhile
import QueryCheck.Proofs.Number.PlainNumerals

/-!
# Reading numerals

An exponent of at most 28 moves the point of a mantissa that fits, exactly as long as the result has room
and by rounding half up where places are lost. Behind a mantissa that does not fit the exponent is not
looked at.
-/

namespace QueryCheck

set_option autoImplicit false

namespace Numeral

/-- An exponent that moves the point by more places than a decimal has -/
def FarExponent (n : Numeral) : Prop :=
  n.mantissa.Fits ∧ ∃ e, n.exponent = some e ∧ 28 < e.magnitude

/-- The number that is read: behind a mantissa that does not fit the exponent is lost. -/
def taken (n : Numeral) : ℚ :=
  if n.exponent.isSome = true ∧ ¬n.mantissa.Fits then n.mantissa.number else n.number

/-- An exponent, if there is one, stands behind a mantissa that fits and is not too far. -/
def Readable (n : Numeral) : Prop :=
  ∀ e, n.exponent = some e → n.mantissa.Fits ∧ e.magnitude ≤ 28

theorem Readable.not_far {n : Numeral} (readable : n.Readable) : ¬n.FarExponent := by
  rintro ⟨-, e, given, far⟩
  exact absurd (readable e given).2 (not_le.mpr far)

theorem Readable.taken_number {n : Numeral} (readable : n.Readable) : n.taken = n.number := by
  rw [taken, if_neg]
  rintro ⟨given, overfull⟩
  obtain ⟨e, given⟩ := Option.isSome_iff_exists.mp given
  exact overfull (readable e given).1

end Numeral

namespace Decimal

/-! ## Products that are whole numbers -/

/-- A product that is not exact is off by half a unit at most. -/
theorem mul_near {a b p : Decimal} (product : a.mul b = some p) : 2 * |p.value - a.value * b.value| ≤ 1 := by
  rw [mul] at product
  split at product
  · rename_i zero
    simp only [Bool.or_eq_true, is_zero_iff] at zero
    cases product
    rw [value_zero, mul_eq_zero.mpr zero, sub_self, abs_zero, mul_zero]
    exact zero_le_one
  · split at product
    · rename_i short
      simp only [Bool.and_eq_true, decide_eq_true_eq] at short
      cases product
      have size : a.coefficient * b.coefficient < UInt32.size * UInt32.size :=
        Nat.mul_lt_mul_of_lt_of_lt short.1.1 short.1.2
      have places : 10 ^ 48 ≤ 10 ^ (a.scale + b.scale) := Nat.pow_le_pow_right (by decide) short.2
      have half : 2 * (a.coefficient * b.coefficient) ≤ 10 ^ (a.scale + b.scale) := by
        refine le_trans ?_ places
        have bound : UInt32.size * UInt32.size = 18446744073709551616 := rfl
        omega
      have half : 2 * ((a.coefficient * b.coefficient : ℕ) : ℚ) ≤ 10 ^ (a.scale + b.scale) := by
        exact_mod_cast half
      rw [value_zero, zero_sub, abs_neg, ← mul_eq_quotient, abs_quotient, ← mul_div_assoc,
        div_le_one (unit_pos _)]
      exact half
    · obtain ⟨used, le, known, -⟩ := fit_parts product
      have near := rounded_near (a.negative != b.negative) (a.coefficient * b.coefficient)
        (a.scale + b.scale - used) used
      rw [Nat.sub_add_cancel le, ← value_of_dropped le known, mul_eq_quotient] at near
      exact near.trans (div_le_one_of_le₀ (one_le_pow₀ (by norm_num)) (unit_pos _).le)

/-- The whole numbers below the bound are held, with any number of places. -/
theorem short_held {z : ℤ} (small : |z| < coefficientBound) {scale : Nat} (places : scale ≤ 28) :
    ∃ e : Decimal, e.value = z / 10 ^ scale := by
  have short : z.natAbs < coefficientBound := by
    rw [Int.abs_eq_natAbs] at small
    exact_mod_cast small
  obtain ⟨e, made⟩ := of_parts_some (decide (z < 0)) short places
  obtain ⟨-, -, value⟩ := of_parts_parts made
  exact ⟨e, by rw [value, quotient_of_int]⟩

/-- A product that is a whole number is exact, unless it has more than 96 bits. -/
theorem mul_of_whole {a b : Decimal} {z : ℤ} (whole : a.value * b.value = z) :
    (∀ d, a.mul b = some d → d.value = z) ∧ (a.mul b = none → (coefficientBound : ℤ) ≤ |z|) := by
  by_cases small : |z| < coefficientBound
  · obtain ⟨e, holds⟩ := short_held small (Nat.zero_le 28)
    rw [pow_zero, div_one] at holds
    obtain ⟨d, product, value⟩ := mul_exact (holds.trans whole.symm)
    refine ⟨fun other same => ?_, fun refused => ?_⟩
    · rw [← Option.some.inj (product.symm.trans same), value, whole]
    · exact absurd (product.symm.trans refused) (Option.some_ne_none d)
  · refine ⟨fun d product => ?_, fun _ => not_lt.mp small⟩
    have near := mul_near product
    have size := d.value_le_coefficient
    have largest := d.coefficient_le
    have large : (coefficientBound : ℚ) ≤ |(z : ℚ)| := by exact_mod_cast not_lt.mp small
    rw [whole] at near
    have triangle := abs_sub_abs_le_abs_sub (z : ℚ) d.value
    rw [abs_sub_comm] at triangle
    generalize (coefficientBound : ℚ) = bound at largest large
    linarith

/-! ## Moving the point -/

theorem of_signed_some (negative : Bool) {coefficient scale : Nat} (short : coefficient < coefficientBound)
    (places : scale ≤ 28) : ∃ d, ofSigned? negative coefficient scale = some d ∧ d.scale = scale ∧
      d.value = quotient negative coefficient scale := by
  rw [ofSigned?, dif_pos ⟨short, places⟩]
  exact ⟨_, rfl, rfl, value_eq_quotient _⟩

theorem quotient_div_pow (negative : Bool) (magnitude scale places : Nat) :
    quotient negative magnitude scale / 10 ^ places = quotient negative magnitude (scale + places) := by
  rw [quotient, quotient, mul_div_assoc, div_div, pow_add]

theorem quotient_mul_pow {negative : Bool} {magnitude scale places : Nat} (le : places ≤ scale) :
    quotient negative magnitude scale * 10 ^ places = quotient negative magnitude (scale - places) := by
  conv_lhs => rw [← Nat.sub_add_cancel le]
  rw [← quotient_div_pow, div_mul_cancel₀ _ (unit_pos places).ne']

/-- The point moved to the left -/
def movedLeft (base : Decimal) (places : Nat) : Option Decimal :=
  if 28 < places then none
  else if 28 < base.scale + places then
    ofSigned? base.negative (base.reduceTo (28 - places)) 28
  else ofSigned? base.negative base.coefficient (base.scale + places)

/-- The point moved to the right -/
def movedRight (base : Decimal) (places : Nat) : Option Decimal :=
  if places ≤ base.scale then ofSigned? base.negative base.coefficient (base.scale - places)
  else if 28 < places then none
  else base.scaleUp places

theorem reduce_to_rounds (d : Decimal) {scale : Nat} (fewer : scale < d.scale) :
    RoundsHalfUp d.coefficient (10 ^ (d.scale - scale)) (d.reduceTo scale) := by
  obtain ⟨less, dropped⟩ : ∃ less, d.scale - scale = less + 1 := ⟨d.scale - scale - 1, by omega⟩
  have digits := Nat.div_add_mod' d.coefficient (10 ^ less)
  have tens := Nat.div_add_mod' (d.coefficient / 10 ^ less) 10
  have kept : d.coefficient / 10 ^ (less + 1) = d.coefficient / 10 ^ less / 10 := by
    rw [pow_succ, Nat.div_div_eq_div_mul]
  have rounds := rounds_half_up (d.coefficient / 10 ^ less / 10)
    (Nat.mod_lt (d.coefficient / 10 ^ less) (by decide))
    (Nat.mod_lt d.coefficient (Nat.pow_pos (n := less) (by decide : 0 < 10)))
  rw [tens, digits, ← pow_succ] at rounds
  rw [reduceTo, dropped]
  simp only [Nat.pow_eq, Nat.add_sub_cancel, kept]
  by_cases down : d.coefficient / 10 ^ less % 10 < 5
  · rw [if_pos down] at rounds
    rwa [if_neg fun up => absurd up.2 (Nat.not_le.mpr down)]
  · rw [if_neg down] at rounds
    rwa [if_pos ⟨Nat.succ_ne_zero less, Nat.not_lt.mp down⟩]

theorem reduce_to_le (d : Decimal) {scale : Nat} (fewer : scale < d.scale) :
    d.reduceTo scale < coefficientBound := by
  by_contra long
  obtain ⟨upper, -⟩ := d.reduce_to_rounds fewer
  have unit : 10 ≤ 10 ^ (d.scale - scale) := Nat.le_self_pow (by omega) 10
  have grown := Nat.mul_le_mul_right (10 ^ (d.scale - scale)) (Nat.not_lt.mp long)
  have short := d.coefficient_lt
  generalize 10 ^ (d.scale - scale) = dropped at upper unit grown
  generalize d.reduceTo scale * dropped = product at upper grown
  unfold coefficientBound at grown short
  omega

theorem moved_left_reads (base : Decimal) {places : Nat} (near : places ≤ 28) :
    ReadAs (base.value / 10 ^ places) (base.movedLeft places) := by
  have exact : base.value / 10 ^ places =
      quotient base.negative base.coefficient (base.scale + places) := by
    rw [value_eq_quotient, quotient_div_pow]
  rw [movedLeft, if_neg (Nat.not_lt.mpr near), exact]
  split
  · rename_i beyond
    have fewer : 28 - places < base.scale := by omega
    obtain ⟨d, made, scale, value⟩ := of_signed_some base.negative (base.reduce_to_le fewer) (Nat.le_refl 28)
    have total : base.scale + places = d.scale + (base.scale - (28 - places)) := by omega
    have value : d.value = quotient base.negative (base.reduceTo (28 - places)) d.scale := by
      rw [scale]
      exact value
    rw [made, total]
    exact nearest_of_half_up (base.reduce_to_rounds fewer) value (.inl scale)
  · rename_i inside
    obtain ⟨d, made, -, value⟩ := of_signed_some base.negative base.coefficient_lt (Nat.not_lt.mp inside)
    rw [made]
    exact nearest_of_value value

theorem moved_left_far (base : Decimal) {places : Nat} (far : 28 < places) :
    base.movedLeft places = none := by
  rw [movedLeft, if_pos far]

theorem normalize_value (d : Decimal) : ∃ e, d.normalize = some e ∧ e.value = d.value := by
  rw [normalize]
  split
  · rename_i zero
    exact ⟨_, rfl, value_zero.trans ((is_zero_iff d).mp zero).symm⟩
  · generalize found : ((List.range (d.scale + 1)).filter fun places =>
      d.coefficient % Nat.pow 10 places == 0).getLast? = last
    have zeros : last.getD 0 ≤ d.scale ∧ 10 ^ last.getD 0 ∣ d.coefficient := by
      cases last with
      | none => exact ⟨Nat.zero_le _, Nat.one_dvd _⟩
      | some places =>
          have member := List.mem_filter.mp (List.mem_of_getLast? found)
          exact ⟨Nat.le_of_lt_succ (List.mem_range.mp member.1),
            Nat.dvd_of_mod_eq_zero (beq_iff_eq.mp member.2)⟩
    obtain ⟨le, c, whole⟩ := zeros
    have kept : d.coefficient / Nat.pow 10 (last.getD 0) = c := by
      rw [whole]
      exact Nat.mul_div_cancel_left c (Nat.pow_pos (by decide))
    have short : c ≤ d.coefficient := whole ▸ Nat.le_mul_of_pos_left c (Nat.pow_pos (by decide))
    obtain ⟨e, made, -, value⟩ := of_signed_some d.negative (short.trans_lt d.coefficient_lt)
      ((Nat.sub_le d.scale (last.getD 0)).trans d.scale_le)
    refine ⟨e, by rw [← made, ← kept], ?_⟩
    rw [value, value_eq_quotient, whole, Nat.mul_comm, ← quotient_extend d.negative c _ (last.getD 0),
      Nat.sub_add_cancel le]

theorem power_held {places : Nat} (few : places ≤ 28) :
    ∃ t, ofParts? false (10 ^ places) 0 = some t ∧ t.value = 10 ^ places := by
  have short : 10 ^ places < coefficientBound :=
    (Nat.pow_le_pow_right (by decide) few).trans_lt (by decide)
  obtain ⟨t, made⟩ := of_parts_some false short (Nat.zero_le 28)
  obtain ⟨-, -, value⟩ := of_parts_parts made
  refine ⟨t, made, ?_⟩
  rw [value, quotient, sign, if_neg Bool.false_ne_true, one_mul, pow_zero, div_one, Nat.cast_pow,
    Nat.cast_ofNat]

/-- The product by a power of ten -/
def shifted (d : Decimal) (places : Nat) : Option Decimal :=
  (ofParts? false (10 ^ places) 0).bind d.mul

theorem scale_up_steps (d : Decimal) (places : Nat) :
    d.scaleUp places =
      if places ≤ 19 then (d.shifted places).bind normalize
      else ((d.shifted 19).bind fun e => e.shifted (places - 19)).bind normalize := by
  rw [scaleUp]
  by_cases few : places < 19
  · rw [if_pos few, if_pos few.le]
    rfl
  · rw [if_neg few]
    by_cases same : places = 19
    · subst same
      change ((d.shifted 19).bind some).bind normalize = (d.shifted 19).bind normalize
      rw [Option.bind_fun_some]
    · rw [if_neg (by omega)]
      simp only [if_neg same]
      rfl

theorem whole_of_places (d : Decimal) {places : Nat} (le : d.scale ≤ places) :
    ∃ z : ℤ, d.value * 10 ^ places = z := by
  refine ⟨d.signed * 10 ^ (places - d.scale), ?_⟩
  rw [value, div_mul_eq_mul_div, div_eq_iff (unit_pos _).ne', Int.cast_mul, mul_assoc, Int.cast_pow,
    Int.cast_ofNat, ← pow_add, Nat.sub_add_cancel le]

/-- A power of ten multiplies exactly, unless the product is too large. -/
theorem shifted_exact (d : Decimal) {places : Nat} (few : places ≤ 28) :
    (∀ e, d.shifted places = some e → e.value = d.value * 10 ^ places) ∧
      (d.shifted places = none → (coefficientBound : ℚ) ≤ |d.value * 10 ^ places|) := by
  obtain ⟨t, made, power⟩ := power_held few
  rw [shifted, made, Option.bind_some, ← power]
  rcases le_total d.scale places with le | more
  · obtain ⟨z, whole⟩ := d.whole_of_places le
    rw [← power] at whole
    rw [whole]
    exact ⟨(mul_of_whole whole).1, fun refused => by exact_mod_cast (mul_of_whole whole).2 refused⟩
  · obtain ⟨held, -, -, value⟩ := of_signed_some d.negative d.coefficient_lt
      ((Nat.sub_le d.scale places).trans d.scale_le)
    rw [← quotient_mul_pow more, ← value_eq_quotient, ← power] at value
    obtain ⟨p, product, exact⟩ := mul_exact value
    rw [product]
    exact ⟨fun e same => Option.some.inj same ▸ exact, fun refused => absurd refused (Option.some_ne_none p)⟩

theorem normalized_reads {exact : ℚ} {result : Option Decimal}
    (made : ∀ e, result = some e → e.value = exact)
    (refused : result = none → (coefficientBound : ℚ) ≤ |exact|) :
    ReadAs exact (result.bind normalize) := by
  cases result with
  | none =>
      have large := refused rfl
      rw [Option.bind_none, ReadAs]
      generalize (coefficientBound : ℚ) = bound at large ⊢
      linarith
  | some e =>
      obtain ⟨n, normal, value⟩ := e.normalize_value
      rw [Option.bind_some, normal]
      exact nearest_of_value (value.trans (made e rfl))

theorem scale_up_reads (base : Decimal) {places : Nat} (near : places ≤ 28) :
    ReadAs (base.value * 10 ^ places) (base.scaleUp places) := by
  rw [scale_up_steps]
  split
  · exact normalized_reads (base.shifted_exact near).1 (base.shifted_exact near).2
  · rename_i many
    have parts : (10 : ℚ) ^ places = 10 ^ 19 * 10 ^ (places - 19) := by
      rw [← pow_add, Nat.add_sub_of_le (not_le.mp many).le]
    rw [parts, ← mul_assoc]
    obtain ⟨made, refused⟩ := base.shifted_exact (by decide : 19 ≤ 28)
    cases first : base.shifted 19 with
    | none =>
        refine normalized_reads (fun e impossible => by cases impossible) fun _ => ?_
        rw [abs_mul, abs_of_pos (unit_pos (places - 19))]
        exact (refused first).trans (le_mul_of_one_le_right (abs_nonneg _) (one_le_pow₀ (by norm_num)))
    | some e =>
        rw [Option.bind_some, ← made e first]
        have rest := e.shifted_exact (show places - 19 ≤ 28 by omega)
        exact normalized_reads rest.1 rest.2

theorem moved_right_reads (base : Decimal) {places : Nat} (near : places ≤ 28) :
    ReadAs (base.value * 10 ^ places) (base.movedRight places) := by
  rw [movedRight]
  split
  · rename_i le
    obtain ⟨d, made, -, value⟩ := of_signed_some base.negative base.coefficient_lt
      ((Nat.sub_le base.scale places).trans base.scale_le)
    rw [made]
    refine nearest_of_value ?_
    rw [value, value_eq_quotient base, quotient_mul_pow le]
  · rw [if_neg (Nat.not_lt.mpr near)]
    exact base.scale_up_reads near

theorem moved_right_far (base : Decimal) {places : Nat} (far : 28 < places) :
    base.movedRight places = none := by
  rw [movedRight, if_neg (Nat.not_le.mpr (base.scale_le.trans_lt far)), if_pos far]

/-! ## Mantissas and their exponents -/

theorem read_plain_mantissa (m : Mantissa) (rest : List Char) :
    readPlain? (m.text ++ rest) =
      Reading.start.run m.sign.isMinus (m.whole ++ m.pointText ++ rest) := by
  rw [Mantissa.text]
  cases m.sign with
  | minus => rfl
  | plus => rfl
  | absent =>
      obtain ⟨c, tail, head, digit⟩ := m.unsigned_head
      rw [SignMark.text, List.nil_append, head, List.cons_append, readPlain?]
      · rfl
      all_goals
        rintro _ ⟨⟩
        simp at digit

theorem read_fitting {m : Mantissa} (fits : m.Fits) :
    ∃ d, readPlain? m.text = some d ∧ d.value = m.number := by
  obtain ⟨d, made⟩ := of_parts_some m.sign.isMinus fits.1 fits.2
  obtain ⟨-, -, value⟩ := of_parts_parts made
  refine ⟨d, ?_, value⟩
  rw [← List.append_nil m.text, read_plain_mantissa, run_of_fits fits]
  exact made

theorem read_mantissa (m : Mantissa) : ReadAs m.number (readPlain? m.text) := by
  by_cases fits : m.Fits
  · obtain ⟨d, read, value⟩ := read_fitting fits
    rw [read]
    exact nearest_of_value value
  · obtain ⟨result, reads, ran⟩ := run_of_not_fits m.sign.isMinus fits
    rw [← List.append_nil m.text, read_plain_mantissa, ran]
    exact reads

/-- Behind a mantissa that does not fit nothing is looked at. -/
theorem read_overfull {m : Mantissa} (overfull : ¬m.Fits) (rest : List Char) :
    readPlain? (m.text ++ rest) = readPlain? m.text := by
  obtain ⟨result, -, ran⟩ := run_of_not_fits m.sign.isMinus overfull
  conv_rhs => rw [← List.append_nil m.text]
  rw [read_plain_mantissa, read_plain_mantissa, ran, ran]

/-- A plain text has no mark of an exponent. -/
theorem read_plain_mark {m : Mantissa} (fits : m.Fits) (e : Exponent) :
    readPlain? (m.text ++ e.text) = none := by
  rw [read_plain_mantissa, run_of_fits fits, Exponent.text, Reading.run]
  rcases e.mark_letter with mark | mark <;> rw [mark]
  · split
    · rfl
    · simp
  · split
    · rfl
    · simp

/-! ## Texts with an exponent -/

def isMark (c : Char) : Bool :=
  c == 'e' || c == 'E'

theorem not_mark_of_digit {c : Char} (digit : c.isDigit = true) : isMark c = false := by
  rw [isMark, Bool.or_eq_false_iff, beq_eq_false_iff_ne, beq_eq_false_iff_ne]
  constructor <;>
  · rintro rfl
    cases digit

theorem mantissa_unmarked (m : Mantissa) : ∀ c ∈ m.text, isMark c = false := by
  have sign : ∀ c ∈ m.sign.text, isMark c = false := by
    cases m.sign with
    | absent => exact List.forall_mem_nil _
    | plus => exact List.forall_mem_singleton.mpr rfl
    | minus => exact List.forall_mem_singleton.mpr rfl
  have point : ∀ c ∈ m.pointText, isMark c = false := by
    rw [Mantissa.pointText]
    cases behind : m.behind with
    | none => exact List.forall_mem_nil _
    | some digits =>
        have all := m.behind_digits
        rw [behind, Option.getD_some] at all
        exact List.forall_mem_cons.mpr ⟨rfl, fun c member => not_mark_of_digit (all c member)⟩
  rw [Mantissa.text, List.forall_mem_append, List.forall_mem_append]
  exact ⟨sign, fun c member => not_mark_of_digit (m.whole_digits c member), point⟩

theorem read_scientific_unmarked {text : List Char} (unmarked : ∀ c ∈ text, isMark c = false) :
    readScientific? text = none := by
  have dropped : text.dropWhile (fun c => !isMark c) = [] :=
    List.dropWhile_eq_nil_iff.mpr fun c member => by rw [unmarked c member]; rfl
  unfold isMark at dropped
  rw [readScientific?]
  simp only [dropped]

/-- The point moved by what stands behind the mark -/
def movedBy (base : Decimal) : List Char → Option Decimal
  | '-' :: digits => (exponent? digits).bind base.movedLeft
  | exponentText => (exponent? exponentText).bind base.movedRight

theorem read_exponent_digits (e : Exponent) : readNat e.digits = some e.magnitude := by
  rw [readNat, if_pos ⟨e.nonempty, List.all_eq_true.mpr e.digits_digits⟩, Exponent.magnitude]

theorem not_head_of_digits (e : Exponent) {c : Char} (other : c.isDigit = false) (rest : List Char) :
    e.digits ≠ c :: rest := by
  intro same
  have digit := e.digits_digits c (by rw [same]; exact List.mem_cons_self)
  rw [other] at digit
  cases digit

theorem moved_by_exponent (base : Decimal) (e : Exponent) :
    base.movedBy (e.sign.text ++ e.digits) =
      if e.sign.isMinus then base.movedLeft e.magnitude else base.movedRight e.magnitude := by
  have bare : exponent? e.digits = some e.magnitude := by
    rw [exponent?]
    · exact read_exponent_digits e
    · exact not_head_of_digits e rfl
  cases e.sign with
  | minus =>
      change (exponent? e.digits).bind base.movedLeft = _
      rw [bare]
      rfl
  | plus =>
      change (readNat e.digits).bind base.movedRight = _
      rw [read_exponent_digits]
      rfl
  | absent =>
      rw [SignMark.text, List.nil_append, movedBy]
      · rw [bare]
        rfl
      · exact not_head_of_digits e rfl

theorem read_scientific_split {text mantissa exponentText : List Char} {mark : Char}
    (taken : text.takeWhile (fun c => !isMark c) = mantissa)
    (dropped : text.dropWhile (fun c => !isMark c) = mark :: exponentText) :
    readScientific? text = (readPlain? mantissa).bind fun base => base.movedBy exponentText := by
  unfold isMark at taken dropped
  rw [readScientific?]
  simp only [taken, dropped]
  congr 1
  funext base
  split
  · rfl
  · rename_i other
    rw [movedBy]
    · rfl
    · exact other

theorem read_scientific_parts (m : Mantissa) (e : Exponent) :
    readScientific? (m.text ++ e.text) = (readPlain? m.text).bind fun base =>
      if e.sign.isMinus then base.movedLeft e.magnitude else base.movedRight e.magnitude := by
  have unmarked : ∀ c ∈ m.text, (!isMark c) = true := fun c member => by
    rw [mantissa_unmarked m c member]
    rfl
  have mark : ¬(!isMark e.mark) = true := by rcases e.mark_letter with mark | mark <;> rw [mark] <;> decide
  have taken : (m.text ++ e.text).takeWhile (fun c => !isMark c) = m.text := by
    rw [List.takeWhile_append_of_pos unmarked, Exponent.text,
      List.takeWhile_cons_of_neg (p := fun c => !isMark c) mark, List.append_nil]
  have dropped : (m.text ++ e.text).dropWhile (fun c => !isMark c) = e.mark :: (e.sign.text ++ e.digits) := by
    rw [List.dropWhile_append_of_pos unmarked, Exponent.text,
      List.dropWhile_cons_of_neg (p := fun c => !isMark c) mark]
  rw [read_scientific_split taken dropped]
  simp only [moved_by_exponent]

theorem read_plain_text (m : Mantissa) : read? m.text = readPlain? m.text := by
  rw [read?, read_scientific_unmarked (mantissa_unmarked m)]
  cases readPlain? m.text <;> rfl

/-- An exponent behind a mantissa that fits moves its point. -/
theorem read_moved {m : Mantissa} (fits : m.Fits) (e : Exponent) :
    ∃ base : Decimal, base.value = m.number ∧ read? (m.text ++ e.text) =
      if e.sign.isMinus then base.movedLeft e.magnitude else base.movedRight e.magnitude := by
  obtain ⟨base, read, value⟩ := read_fitting fits
  refine ⟨base, value, ?_⟩
  rw [read?, read_plain_mark fits, read_scientific_parts, read]
  rfl

/-- An exponent behind a mantissa that does not fit is not looked at. -/
theorem read_lost {m : Mantissa} (overfull : ¬m.Fits) (e : Exponent) :
    read? (m.text ++ e.text) = readPlain? m.text := by
  rw [read?, read_overfull overfull, read_scientific_parts]
  cases readPlain? m.text <;> rfl

/-! ## Numerals -/

theorem read_far {n : Numeral} (far : n.FarExponent) : read? n.text = none := by
  obtain ⟨fits, e, given, far⟩ := far
  obtain ⟨base, -, read⟩ := read_moved fits e
  rw [Numeral.text, given, read, base.moved_left_far far, base.moved_right_far far, ite_self]

theorem read_numeral {n : Numeral} (near : ¬n.FarExponent) : ReadAs n.taken (read? n.text) := by
  rw [Numeral.text, Numeral.taken, Numeral.number]
  cases given : n.exponent with
  | none =>
      rw [if_neg (by simp), List.append_nil, read_plain_text]
      exact read_mantissa n.mantissa
  | some e =>
      by_cases fits : n.mantissa.Fits
      · have few : e.magnitude ≤ 28 := not_lt.mp fun far => near ⟨fits, e, given, far⟩
        obtain ⟨base, value, read⟩ := read_moved fits e
        rw [if_neg fun lost => lost.2 fits, read, ← value]
        change ReadAs (base.value * 10 ^ e.value) _
        rw [Exponent.value]
        split
        · rw [zpow_neg, zpow_natCast, ← div_eq_mul_inv]
          exact base.moved_left_reads few
        · rw [zpow_natCast]
          exact base.moved_right_reads few
      · rw [if_pos ⟨rfl, fits⟩, read_lost fits]
        exact read_mantissa n.mantissa

end Decimal

end QueryCheck

import QueryCheck.Number.Binary64
import QueryCheck.Proofs.Condition.Lexemes

/-!
# Lexed floats have values

The lexer takes digits, a point with digits, and an exponent that has a digit. Reading decimals accepts
all of these, so no float token is without a number.
-/

namespace QueryCheck.Condition.Lexer

set_option autoImplicit false

/-! ## Exponents -/

def IsExponent (exponent : List Char) : Prop :=
  exponent = [] ∨ ∃ mark body, exponent = mark :: body ∧ (mark = 'e' ∨ mark = 'E') ∧
    (readInt body).isSome = true

/-- A number may have a sign in front of its digits. -/
theorem read_int_digits {digits : List Char} (nonempty : digits ≠ [])
    (all : ∀ c ∈ digits, c.isDigit = true) :
    (readInt digits).isSome = true ∧ (readInt ('+' :: digits)).isSome = true ∧
      (readInt ('-' :: digits)).isSome = true := by
  have read : readNat digits = some (ofDigits digits) := if_pos ⟨nonempty, List.all_eq_true.mpr all⟩
  refine ⟨?_, ?_, ?_⟩
  · have first : ∀ c rest, digits = c :: rest → c.isDigit = true := by
      intro c rest same
      exact all c (by rw [same]; exact List.mem_cons_self)
    unfold readInt
    split
    · exact absurd (first _ _ rfl) (by decide)
    · exact absurd (first _ _ rfl) (by decide)
    · rw [read]
      rfl
  · simp [readInt, read]
  · simp [readInt, read]

theorem power_is_exponent {exponent : List Char} (power : Power exponent) : IsExponent exponent := by
  cases power with
  | none => exact .inl rfl
  | some marked signed nonempty all =>
      have read := read_int_digits nonempty all
      right
      rcases signed with rfl | rfl | rfl
      · exact ⟨_, _, rfl, marked, read.1⟩
      · exact ⟨_, _, rfl, marked, read.2.1⟩
      · exact ⟨_, _, rfl, marked, read.2.2⟩

theorem exponent_no_digit {exponent : List Char} (shape : IsExponent exponent) :
    ∀ c, exponent.head? = some c → c.isDigit = false := by
  intro c head
  rcases shape with rfl | ⟨mark, body, rfl, marked, -⟩
  · cases head
  · cases head
    rcases marked with rfl | rfl <;> decide

/-! ## Reading them together -/

theorem decimal_parts_of_lexeme {whole fraction digits exponent : List Char}
    (wholeDigits : ∀ c ∈ whole, c.isDigit = true) (point : IsFraction fraction digits)
    (digitsDigits : ∀ c ∈ digits, c.isDigit = true) (power : IsExponent exponent)
    (nonempty : whole ≠ [] ∨ digits ≠ []) :
    (Binary64.decimalParts? (whole ++ (fraction ++ exponent))).isSome = true := by
  have noDigit := exponent_no_digit power
  unfold Binary64.decimalParts?
  rcases point with ⟨rfl, rfl⟩ | rfl
  · have wholeSome : whole ≠ [] := by simpa using nonempty
    rw [List.nil_append, span_digits_append whole exponent wholeDigits noDigit]
    rcases power with rfl | ⟨mark, body, rfl, rfl | rfl, read⟩
    · simp [wholeSome]
    · simp [wholeSome, read]
    · simp [wholeSome, read]
  · rw [span_digits_append whole _ wholeDigits (by simp)]
    simp only [List.cons_append, span_digits_append digits exponent digitsDigits noDigit]
    rcases power with rfl | ⟨mark, body, rfl, rfl | rfl, read⟩
    · rcases nonempty with some | some <;> simp [some]
    · rcases nonempty with some | some <;> simp [some, read]
    · rcases nonempty with some | some <;> simp [some, read]

theorem lower_of_digit {c : Char} (digit : c.isDigit = true) : c.toLower = c := by
  unfold Char.isDigit at digit
  rw [Bool.and_eq_true, decide_eq_true_iff, decide_eq_true_iff] at digit
  unfold Char.toLower
  rw [dif_neg]
  intro upper
  exact absurd (UInt32.le_trans upper.1 digit.2) (by decide)

/-- A text that begins with a digit or a point is no word for infinity or for no number. -/
theorem read_of_decimal_parts {c : Char} {rest : List Char} (first : c.isDigit = true ∨ c = '.')
    (read : (Binary64.decimalParts? (c :: rest)).isSome = true) :
    (Binary64.read? (c :: rest)).isSome = true := by
  have others : ∀ other : Char, other.isDigit = false → other ≠ '.' → c ≠ other := by
    intro other noDigit noPoint same
    rw [same, noDigit] at first
    rcases first with impossible | point
    · cases impossible
    · exact noPoint point
  have lower : c.toLower = c := by
    rcases first with digit | rfl
    · exact lower_of_digit digit
    · decide
  have noWord : ∀ head tail, head.isDigit = false → head ≠ '.' →
      Binary64.lowerAscii (c :: rest) ≠ head :: tail := by
    intro head tail noDigit noPoint same
    have heads := (List.cons.inj same).1
    rw [lower] at heads
    exact others head noDigit noPoint heads
  have unsigned : Binary64.read? (c :: rest) = Binary64.read?.unsigned? (c :: rest) := by
    unfold Binary64.read?
    split
    · rename_i same
      exact absurd (List.cons.inj same).1 (others '-' (by decide) (by decide))
    · rename_i same
      exact absurd (List.cons.inj same).1 (others '+' (by decide) (by decide))
    · rfl
  rw [unsigned]
  unfold Binary64.read?.unsigned?
  have noInf : Binary64.lowerAscii (c :: rest) ≠ "inf".toList :=
    noWord 'i' ['n', 'f'] (by decide) (by decide)
  have noInfinity : Binary64.lowerAscii (c :: rest) ≠ "infinity".toList :=
    noWord 'i' ['n', 'f', 'i', 'n', 'i', 't', 'y'] (by decide) (by decide)
  have noNan : Binary64.lowerAscii (c :: rest) ≠ "nan".toList :=
    noWord 'n' ['a', 'n'] (by decide) (by decide)
  have noWords : ¬(decide (Binary64.lowerAscii (c :: rest) = "inf".toList) ||
      decide (Binary64.lowerAscii (c :: rest) = "infinity".toList)) = true := by
    rw [Bool.or_eq_true, decide_eq_true_iff, decide_eq_true_iff]
    exact not_or.mpr ⟨noInf, noInfinity⟩
  dsimp only
  rw [if_neg noWords, if_neg noNan, Option.isSome_map]
  exact read

/-! ## Float tokens -/

theorem number_token_float {whole fraction exponent : List Char} {lexeme : String}
    (made : numberToken whole fraction exponent = .ok (.float lexeme)) :
    lexeme.toList = whole ++ (fraction ++ exponent) := by
  unfold numberToken at made
  split at made
  · split at made
    · cases made
    · cases made
  · cases made
    rw [String.toList_ofList, List.append_assoc]

theorem lexeme_reads {whole fraction digits exponent : List Char}
    (wholeDigits : ∀ c ∈ whole, c.isDigit = true) (point : IsFraction fraction digits)
    (digitsDigits : ∀ c ∈ digits, c.isDigit = true) (power : IsExponent exponent)
    (nonempty : whole ≠ [] ∨ digits ≠ []) :
    (Binary64.read? (whole ++ (fraction ++ exponent))).isSome = true := by
  have parts := decimal_parts_of_lexeme wholeDigits point digitsDigits power nonempty
  cases whole with
  | cons c rest => exact read_of_decimal_parts (.inl (wholeDigits c List.mem_cons_self)) parts
  | nil =>
      rcases point with ⟨-, none⟩ | rfl
      · exact absurd none (by simpa using nonempty)
      · exact read_of_decimal_parts (.inr rfl) parts

/-- Digits with an optional point and further digits, or a point and digits, with an optional exponent;
what has neither point nor exponent is a whole number. -/
def FloatText (lexeme : List Char) : Prop :=
  ∃ whole fraction digits exponent, NumberParts whole fraction digits exponent ∧
    (fraction ≠ [] ∨ exponent ≠ []) ∧ lexeme = whole ++ (fraction ++ exponent)

theorem float_text_reads {lexeme : List Char} (shaped : FloatText lexeme) :
    (Binary64.read? lexeme).isSome = true := by
  obtain ⟨whole, fraction, digits, exponent, parts, -, rfl⟩ := shaped
  exact lexeme_reads parts.wholeDigits parts.point parts.digitsDigits (power_is_exponent parts.power)
    parts.nonempty

theorem number_float {text : List Char} {lexeme : String} {width : Nat}
    (starts : startsNumber text = true) (read : number text = .ok (.float lexeme, width)) :
    FloatText lexeme.toList := by
  obtain ⟨whole, fraction, digits, exponent, rest, -, parts, -, made, -⟩ := number_parts starts read
  refine ⟨whole, fraction, digits, exponent, parts, ?_, number_token_float made⟩
  by_contra neither
  rw [not_or, not_not, not_not] at neither
  obtain ⟨rfl, rfl⟩ := neither
  unfold numberToken at made
  dsimp only [List.isEmpty_nil] at made
  split at made
  · split at made <;> cases made
  · rename_i impossible
    exact impossible rfl

theorem token_at_float_text {c : Char} {rest : List Char} {lexeme : String} {width : Nat}
    (read : tokenAt c rest = .ok (.float lexeme, width)) : FloatText lexeme.toList := by
  cases token_at_reading.mp read with
  | number starts read => exact number_float starts read
  | operator operates =>
      unfold operator at operates
      split at operates <;> cases operates

theorem token_at_float {c : Char} {rest : List Char} {lexeme : String} {width : Nat}
    (read : tokenAt c rest = .ok (.float lexeme, width)) :
    (Binary64.read? lexeme.toList).isSome = true :=
  float_text_reads (token_at_float_text read)

end QueryCheck.Condition.Lexer

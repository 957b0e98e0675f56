import Mathlib.Data.List.TakeWhile
import QueryCheck.Condition.Lexer
import QueryCheck.Proofs.Except

/-!
# The lexemes of numbers

A number takes digits, a point with the digits behind it, and an exponent, each as far as the text goes
on with it. Its parts are the same in front of every text that does not go on with the number.
-/

namespace QueryCheck.Condition.Lexer

set_option autoImplicit false

/-! ## The parts of a lexeme -/

def IsFraction (fraction digits : List Char) : Prop :=
  (fraction = [] ∧ digits = []) ∨ fraction = '.' :: digits

/-- Nothing, or a mark, at most one sign and at least one digit. -/
inductive Power : List Char → Prop where
  | none : Power []
  | some {mark : Char} {sign digits : List Char} (marked : mark = 'e' ∨ mark = 'E')
      (signed : sign = [] ∨ sign = ['+'] ∨ sign = ['-']) (nonempty : digits ≠ [])
      (all : ∀ c ∈ digits, c.isDigit = true) : Power (mark :: (sign ++ digits))

structure NumberParts (whole fraction digits exponent : List Char) : Prop where
  wholeDigits : ∀ c ∈ whole, c.isDigit = true
  point : IsFraction fraction digits
  digitsDigits : ∀ c ∈ digits, c.isDigit = true
  power : Power exponent
  nonempty : whole ≠ [] ∨ digits ≠ []

def NoDigitNext (rest : List Char) : Prop :=
  ∀ next, rest.head? = some next → next.isDigit = false

/-- The text behind a number does not go on with it. -/
def EndsNumber (fraction exponent rest : List Char) : Prop :=
  ∀ next, rest.head? = some next →
    next.isDigit = false ∧ isWordStart next = false ∧ (fraction = [] → exponent = [] → next ≠ '.')

theorem ends_number_no_digit {fraction exponent rest : List Char}
    (ends : EndsNumber fraction exponent rest) : NoDigitNext rest :=
  fun next head => (ends next head).1

/-! ## Runs of characters -/

theorem run_taken (p : Char → Bool) (text : List Char) :
    ∃ rest, text = text.takeWhile p ++ rest ∧ ∀ next, rest.head? = some next → p next = false := by
  refine ⟨text.dropWhile p, List.takeWhile_append_dropWhile.symm, ?_⟩
  intro next head
  have stops := List.head?_dropWhile_not p text
  rw [head] at stops
  exact stops

theorem run_again {p : Char → Bool} {taken rest : List Char} (all : ∀ c ∈ taken, p c = true)
    (stops : ∀ next, rest.head? = some next → p next = false) : (taken ++ rest).takeWhile p = taken := by
  rw [List.takeWhile_append_of_pos all]
  cases rest with
  | nil => exact List.append_nil taken
  | cons next rest => rw [List.takeWhile_cons_of_neg (by simp [stops next rfl]), List.append_nil]

/-! ## Fractions -/

theorem fraction_taken (text : List Char) :
    ∃ digits rest, text = fractionLexeme text ++ rest ∧ IsFraction (fractionLexeme text) digits ∧
      (∀ c ∈ digits, c.isDigit = true) ∧ (fractionLexeme text ≠ [] → NoDigitNext rest) ∧
      (fractionLexeme text = [] → text.head? ≠ some '.') ∧
      ∀ c rest, text = '.' :: c :: rest → c.isDigit = true → digits ≠ [] := by
  unfold fractionLexeme
  split
  · rename_i behind
    obtain ⟨rest, split, stops⟩ := run_taken Char.isDigit behind
    refine ⟨_, rest, congrArg ('.' :: ·) split, .inr rfl, fun c => List.mem_takeWhile_imp,
      fun _ => stops, nofun, ?_⟩
    intro c others same digit
    cases same
    rw [List.takeWhile_cons_of_pos digit]
    exact List.cons_ne_nil _ _
  · rename_i noPoint
    refine ⟨[], text, rfl, .inl ⟨rfl, rfl⟩, List.forall_mem_nil _, fun some => absurd rfl some, ?_, ?_⟩
    · intro _ head
      obtain ⟨rest, same⟩ := List.head?_eq_some_iff.mp head
      exact noPoint rest same
    · intro c rest same
      exact absurd same (noPoint (c :: rest))

theorem fraction_again {fraction digits rest : List Char} (point : IsFraction fraction digits)
    (all : ∀ c ∈ digits, c.isDigit = true) (stops : fraction ≠ [] → NoDigitNext rest)
    (plain : fraction = [] → rest.head? ≠ some '.') :
    fractionLexeme (fraction ++ rest) = fraction := by
  rcases point with ⟨rfl, -⟩ | rfl
  · unfold fractionLexeme
    split
    · rename_i same
      exact absurd (congrArg List.head? same) (plain rfl)
    · rfl
  · exact congrArg ('.' :: ·) (run_again all (stops (List.cons_ne_nil _ _)))

theorem fraction_no_digit {fraction digits : List Char} (point : IsFraction fraction digits)
    {rest : List Char} (stops : fraction = [] → NoDigitNext rest) : NoDigitNext (fraction ++ rest) := by
  rcases point with ⟨rfl, -⟩ | rfl
  · exact stops rfl
  · intro next head
    cases head
    rfl

/-! ## Exponents -/

theorem exponent_taken (text : List Char) :
    ∃ rest, text = exponentLexeme text ++ rest ∧ Power (exponentLexeme text) ∧
      (exponentLexeme text ≠ [] → NoDigitNext rest) := by
  have nothing : ∃ rest, text = [] ++ rest ∧ Power [] ∧ ([] ≠ ([] : List Char) → NoDigitNext rest) :=
    ⟨text, rfl, .none, fun some => absurd rfl some⟩
  unfold exponentLexeme
  split
  · rename_i mark behind
    split
    · rename_i marked
      split
      rename_i sign others signed
      dsimp only
      split
      · exact nothing
      · rename_i some
        have nonempty : others.takeWhile Char.isDigit ≠ [] := by simpa using some
        obtain ⟨rest, split, stops⟩ := run_taken Char.isDigit others
        have parts : behind = sign ++ others ∧ (sign = [] ∨ sign = ['+'] ∨ sign = ['-']) := by
          split at signed
          · cases signed
            exact ⟨rfl, .inr (.inl rfl)⟩
          · cases signed
            exact ⟨rfl, .inr (.inr rfl)⟩
          · cases signed
            exact ⟨rfl, .inl rfl⟩
        refine ⟨rest, ?_, .some marked parts.2 nonempty fun c => List.mem_takeWhile_imp, fun _ => stops⟩
        rw [parts.1]
        simp only [List.cons_append, List.append_assoc, ← split]
    · exact nothing
  · exact nothing

theorem exponent_again {exponent rest : List Char} (power : Power exponent)
    (stops : exponent ≠ [] → NoDigitNext rest)
    (plain : exponent = [] → ∀ next, rest.head? = some next → isWordStart next = false) :
    exponentLexeme (exponent ++ rest) = exponent := by
  cases power with
  | none =>
      cases rest with
      | nil => rfl
      | cons next rest =>
          have noWord := plain rfl next rfl
          refine if_neg ?_
          rintro (rfl | rfl)
          · exact absurd noWord (by decide)
          · exact absurd noWord (by decide)
  | some marked signed nonempty all =>
      rename_i mark sign digits
      have taken := run_again all (stops (List.cons_ne_nil _ _))
      have nonempty : digits.isEmpty ≠ true := by simpa using nonempty
      unfold exponentLexeme
      rw [List.cons_append, List.append_assoc]
      dsimp only
      rw [if_pos marked]
      rcases signed with rfl | rfl | rfl
      · have noSign : ∀ c others, digits ++ rest = c :: others → c.isDigit = true := by
          intro c others same
          cases digits with
          | nil => exact absurd rfl nonempty
          | cons first tail =>
              rw [← (List.cons.inj same).1]
              exact all first List.mem_cons_self
        rw [List.nil_append]
        split
        · rename_i same
          exact absurd (noSign _ _ same) (by decide)
        · rename_i same
          exact absurd (noSign _ _ same) (by decide)
        · simp [taken, nonempty]
      · simp [taken, nonempty]
      · simp [taken, nonempty]

theorem power_no_digit {exponent : List Char} (power : Power exponent) {rest : List Char}
    (stops : exponent = [] → NoDigitNext rest) : NoDigitNext (exponent ++ rest) := by
  cases power with
  | none => exact stops rfl
  | some marked signed nonempty all =>
      intro next head
      cases head
      rcases marked with rfl | rfl <;> rfl

theorem power_no_point {exponent : List Char} (power : Power exponent) {rest : List Char}
    (plain : exponent = [] → rest.head? ≠ some '.') : (exponent ++ rest).head? ≠ some '.' := by
  cases power with
  | none => exact plain rfl
  | some marked signed nonempty all =>
      intro head
      cases head
      rcases marked with impossible | impossible <;> cases impossible

/-! ## Whole numbers, fractions and exponents together -/

section parts

variable {whole fraction digits exponent : List Char}

theorem number_ne_nil (parts : NumberParts whole fraction digits exponent) :
    whole ++ (fraction ++ exponent) ≠ [] := by
  intro nothing
  simp only [List.append_eq_nil_iff] at nothing
  obtain ⟨rfl, rfl, -⟩ := nothing
  rcases parts.nonempty with some | some
  · exact some rfl
  · rcases parts.point with ⟨-, none⟩ | none
    · exact some none
    · cases none

theorem starts_number {c : Char} (digit : c.isDigit = true) (rest : List Char) :
    startsNumber (c :: rest) = true := by
  unfold startsNumber
  split
  · rename_i same
    rw [(List.cons.inj same).1] at digit
    cases digit
  · rename_i same
    rw [← (List.cons.inj same).1]
    exact digit
  · rename_i none
    cases none

theorem starts_no_number {c : Char} (noDigit : c.isDigit = false) (noPoint : c ≠ '.')
    (rest : List Char) : startsNumber (c :: rest) = false := by
  unfold startsNumber
  split
  · rename_i same
    exact absurd (List.cons.inj same).1 noPoint
  · rename_i same
    rw [← (List.cons.inj same).1]
    exact noDigit
  · rfl

theorem starts_number_of_parts (parts : NumberParts whole fraction digits exponent) (rest : List Char) :
    startsNumber (whole ++ (fraction ++ rest)) = true := by
  cases whole with
  | cons c others => exact starts_number (parts.wholeDigits c List.mem_cons_self) _
  | nil =>
      have nonempty : digits ≠ [] := by simpa using parts.nonempty
      have all := parts.digitsDigits
      rcases parts.point with ⟨-, none⟩ | rfl
      · exact absurd none nonempty
      · cases digits with
        | nil => exact absurd rfl nonempty
        | cons c others => exact all c List.mem_cons_self

theorem number_of_parts (parts : NumberParts whole fraction digits exponent) {rest : List Char}
    (ends : EndsNumber fraction exponent rest) :
    number (whole ++ (fraction ++ (exponent ++ rest))) =
      (numberToken whole fraction exponent).map
        (·, whole.length + fraction.length + exponent.length) := by
  have stops := ends_number_no_digit ends
  have behindFraction := power_no_digit parts.power fun _ => stops
  have behindWhole := fraction_no_digit parts.point fun _ => behindFraction
  have takenWhole := run_again parts.wholeDigits behindWhole
  have takenFraction : fractionLexeme (fraction ++ (exponent ++ rest)) = fraction := by
    apply fraction_again parts.point parts.digitsDigits fun _ => behindFraction
    intro noFraction
    apply power_no_point parts.power
    intro noExponent head
    exact (ends '.' head).2.2 noFraction noExponent rfl
  have takenExponent : exponentLexeme (exponent ++ rest) = exponent :=
    exponent_again parts.power (fun _ => stops) fun _ next head => (ends next head).2.1
  unfold number
  dsimp only
  rw [takenWhole, List.drop_left, takenFraction, List.drop_left, takenExponent, List.drop_left]
  cases rest with
  | nil => rfl
  | cons next rest =>
      dsimp only
      rw [(ends next rfl).2.1]
      rfl

theorem number_parts {text : List Char} {token : Token} {width : Nat} (starts : startsNumber text = true)
    (read : number text = .ok (token, width)) :
    ∃ whole fraction digits exponent rest,
      text = whole ++ (fraction ++ (exponent ++ rest)) ∧ NumberParts whole fraction digits exponent ∧
        EndsNumber fraction exponent rest ∧ numberToken whole fraction exponent = .ok token ∧
        width = whole.length + fraction.length + exponent.length := by
  obtain ⟨afterWhole, splitWhole, stopsWhole⟩ := run_taken Char.isDigit text
  obtain ⟨digits, afterFraction, splitFraction, point, digitsDigits, stopsFraction, plain, more⟩ :=
    fraction_taken afterWhole
  obtain ⟨rest, splitExponent, power, stopsExponent⟩ := exponent_taken afterFraction
  have nonempty : text.takeWhile Char.isDigit ≠ [] ∨ digits ≠ [] := by
    unfold startsNumber at starts
    split at starts
    · rename_i c others
      exact .inr (more c others splitWhole.symm starts)
    · rename_i c others noPoint
      left
      rw [List.takeWhile_cons_of_pos starts]
      exact List.cons_ne_nil _ _
    · cases starts
  have wholeDigits : ∀ c ∈ text.takeWhile Char.isDigit, c.isDigit = true :=
    fun c => List.mem_takeWhile_imp
  unfold number at read
  dsimp only at read
  generalize text.takeWhile Char.isDigit = whole at *
  subst splitWhole
  rw [List.drop_left] at read
  generalize fractionLexeme afterWhole = fraction at *
  subst splitFraction
  rw [List.drop_left] at read
  generalize exponentLexeme afterFraction = exponent at *
  subst splitExponent
  rw [List.drop_left] at read
  have parts : NumberParts whole fraction digits exponent :=
    ⟨wholeDigits, point, digitsDigits, power, nonempty⟩
  refine ⟨whole, fraction, digits, exponent, rest, rfl, parts, ?_, ?_⟩
  · intro next head
    have noDigit : NoDigitNext rest := by
      by_cases noExponent : exponent = []
      · subst noExponent
        by_cases noFraction : fraction = []
        · subst noFraction
          exact stopsWhole
        · exact stopsFraction noFraction
      · exact stopsExponent noExponent
    refine ⟨noDigit next head, ?_, ?_⟩
    · obtain ⟨others, rfl⟩ := List.head?_eq_some_iff.mp head
      dsimp only at read
      split at read
      · cases read
      · rename_i noWord
        exact Bool.eq_false_iff.mpr noWord
    · rintro rfl rfl rfl
      exact plain rfl head
  · split at read
    · split at read
      · cases read
      · obtain ⟨other, made, same⟩ := except_map_ok.mp read
        cases same
        exact ⟨made, rfl⟩
    · obtain ⟨other, made, same⟩ := except_map_ok.mp read
      cases same
      exact ⟨made, rfl⟩

end parts

end QueryCheck.Condition.Lexer

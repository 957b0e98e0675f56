import QueryCheck.Proofs.Number.Digits
import QueryCheck.Proofs.Number.Fitting

/-!
# Numerals

The texts that denote numbers in plain or scientific notation: digits with at most one point among them,
behind at most one sign, and then an exponent or none. Any number of digits may stand before and behind
the point.
-/

namespace QueryCheck

set_option autoImplicit false

/-- The mark in front of digits, if there is one -/
inductive SignMark where
  | absent
  | plus
  | minus
deriving DecidableEq

namespace SignMark

def text : SignMark → List Char
  | absent => []
  | plus => ['+']
  | minus => ['-']

def isMinus : SignMark → Bool
  | minus => true
  | _ => false

end SignMark

/-- Digits with a point or without; there is at least one digit. -/
structure Mantissa where
  sign : SignMark
  whole : List Char
  /-- What stands behind the point, if there is a point -/
  behind : Option (List Char)
  whole_digits : ∀ c ∈ whole, c.isDigit = true
  behind_digits : ∀ c ∈ behind.getD [], c.isDigit = true
  nonempty : whole ++ behind.getD [] ≠ []

namespace Mantissa

def fraction (m : Mantissa) : List Char := m.behind.getD []

def digits (m : Mantissa) : List Char := m.whole ++ m.fraction

def pointText (m : Mantissa) : List Char :=
  match m.behind with
  | none => []
  | some digits => '.' :: digits

def text (m : Mantissa) : List Char :=
  m.sign.text ++ (m.whole ++ m.pointText)

/-- The rational number that the mantissa denotes -/
def number (m : Mantissa) : ℚ :=
  Decimal.quotient m.sign.isMinus (ofDigits m.digits) m.fraction.length

/-- All digits as they are written have room in a decimal. -/
def Fits (m : Mantissa) : Prop :=
  ofDigits m.digits < Decimal.coefficientBound ∧ m.fraction.length ≤ 28

instance (m : Mantissa) : Decidable m.Fits :=
  inferInstanceAs (Decidable (_ ∧ _))

/-- The digits from the first one on that is not zero -/
def significant (m : Mantissa) : List Char :=
  m.digits.dropWhile (· == '0')

theorem digits_digits (m : Mantissa) : ∀ c ∈ m.digits, c.isDigit = true :=
  List.forall_mem_append.mpr ⟨m.whole_digits, m.behind_digits⟩

theorem fits_of_significant (m : Mantissa) (few : m.significant.length ≤ 28)
    (places : m.fraction.length ≤ 28) : m.Fits := by
  have same : ofDigits m.digits = ofDigits m.significant := of_digits_of_leading_zeros m.digits
  have all : ∀ c ∈ m.significant, c.isDigit = true := fun c member =>
    m.digits_digits c ((List.dropWhile_sublist _).subset member)
  refine ⟨?_, places⟩
  calc
    ofDigits m.digits = ofDigits m.significant := same
    _ < 10 ^ m.significant.length := of_digits_lt all
    _ ≤ 10 ^ 28 := Nat.pow_le_pow_right (by decide) few
    _ < Decimal.coefficientBound := by decide

/-- Digits behind a zero and a point -/
def belowOne (digits : List Char) (all : ∀ c ∈ digits, c.isDigit = true) : Mantissa where
  sign := .absent
  whole := ['0']
  behind := some digits
  whole_digits := List.forall_mem_singleton.mpr rfl
  behind_digits := all
  nonempty := List.cons_ne_nil _ _

theorem unsigned_head (m : Mantissa) :
    ∃ c rest, m.whole ++ m.pointText = c :: rest ∧ (c.isDigit = true ∨ c = '.') := by
  cases whole : m.whole with
  | cons c rest => exact ⟨c, _, rfl, .inl (m.whole_digits c (by rw [whole]; exact List.mem_cons_self))⟩
  | nil =>
      have nonempty := m.nonempty
      rw [whole, List.nil_append] at nonempty
      cases behind : m.behind with
      | none =>
          rw [behind] at nonempty
          exact absurd rfl nonempty
      | some digits => exact ⟨'.', digits, by rw [pointText, behind]; rfl, .inr rfl⟩

end Mantissa

/-- A power of ten behind a mantissa -/
structure Exponent where
  mark : Char
  sign : SignMark
  digits : List Char
  mark_letter : mark = 'e' ∨ mark = 'E'
  digits_digits : ∀ c ∈ digits, c.isDigit = true
  nonempty : digits ≠ []

namespace Exponent

def text (e : Exponent) : List Char :=
  e.mark :: (e.sign.text ++ e.digits)

def magnitude (e : Exponent) : Nat := ofDigits e.digits

def value (e : Exponent) : ℤ :=
  if e.sign.isMinus then -(e.magnitude : ℤ) else e.magnitude

end Exponent

/-- A number in plain or scientific notation -/
structure Numeral where
  mantissa : Mantissa
  exponent : Option Exponent

namespace Numeral

def text (n : Numeral) : List Char :=
  n.mantissa.text ++
    match n.exponent with
    | none => []
    | some e => e.text

/-- The rational number that the numeral denotes -/
def number (n : Numeral) : ℚ :=
  match n.exponent with
  | none => n.mantissa.number
  | some e => n.mantissa.number * 10 ^ e.value

end Numeral

end QueryCheck

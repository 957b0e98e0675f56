import QueryCheck.Proofs.Number.ScientificNumerals
import QueryCheck.Proofs.Warehouse.DecodedRows

/-!
# Decimal cells

A cell of a decimal column is read as the decimal nearest to its number: exactly where some decimal is the
number, and rounded elsewhere without an error. Only a number that is too large and an exponent that is too
far are refused.
-/

namespace QueryCheck.Warehouse

set_option autoImplicit false

open Decimal (coefficientBound Nearest)

theorem plain_of_listed {type : String} (listed : CellType.ofName type ≠ .text) : isStruct type = false := by
  rw [← Bool.not_eq_true, isStruct, Bool.or_eq_true, beq_iff_eq, beq_iff_eq]
  rintro (rfl | rfl)
  · exact listed rfl
  · exact listed rfl

def numeralCell (n : Numeral) : Json :=
  .string (String.ofList n.text)

theorem decode_numeral {field : FieldSchema} (decimal : CellType.ofName field.type = .numeric) (n : Numeral) :
    decodeValue field (numeralCell n) =
      match Decimal.read? n.text with
      | some d => .ok (.numeric d)
      | none => .error (.unreadable field.type field.name (String.ofList n.text)) := by
  have plain : isStruct field.type = false := plain_of_listed (by rw [decimal]; decide)
  have present : numeralCell n ≠ .null := nofun
  rw [decode_scalar plain present, decodeText, numeralCell, Json.string?, decimal]
  simp only [CellType.read?, String.toList_ofList]
  cases Decimal.read? n.text <;> rfl

/-- Every text of a number in a decimal column: it is refused if the exponent is too far or the number too
large. Otherwise it is accepted as the decimal nearest to the number that is read, which is that number if
and only if some decimal is. -/
theorem numeric_cells_are_rounded {field : FieldSchema} (decimal : CellType.ofName field.type = .numeric)
    (n : Numeral) :
    (n.FarExponent ∨ (coefficientBound : ℚ) - 1 / 2 ≤ |n.taken| →
      decodeValue field (numeralCell n) =
        .error (.unreadable field.type field.name (String.ofList n.text))) ∧
    (¬(n.FarExponent ∨ (coefficientBound : ℚ) - 1 / 2 ≤ |n.taken|) →
      ∃ d, decodeValue field (numeralCell n) = .ok (.numeric d) ∧ Nearest n.taken d ∧
        (d.value = n.taken ↔ ∃ e : Decimal, e.value = n.taken)) := by
  rw [decode_numeral decimal]
  by_cases far : n.FarExponent
  · rw [Decimal.read_far far]
    exact ⟨fun _ => rfl, fun neither => absurd (.inl far) neither⟩
  · have read := Decimal.read_numeral far
    rw [or_iff_right far, ← read.none_iff]
    cases result : Decimal.read? n.text with
    | none => exact ⟨fun _ => rfl, fun some => absurd rfl some⟩
    | some d =>
        rw [result] at read
        have nearest : Nearest n.taken d := read
        exact ⟨nofun, fun _ => ⟨d, rfl, nearest, nearest.value_eq_iff⟩⟩

def priceColumn : FieldSchema :=
  .mk "price" "BIGNUMERIC" none []

def price : Numeral where
  mantissa := ⟨.minus, ['1', '2'], some ['3', '4', '5', '0'], List.all_eq_true.mp rfl,
    List.all_eq_true.mp rfl, by decide⟩
  exponent := some ⟨'e', .plus, ['1'], .inl rfl, List.all_eq_true.mp rfl, by decide⟩

theorem price_is_rounded :
    CellType.ofName priceColumn.type = .numeric ∧
      ∃ d, decodeValue priceColumn (.string "-12.3450e+1") = .ok (.numeric d) ∧
        d.value = price.number ∧ price.number = -123.45 := by
  have readable : price.Readable := by
    rintro e ⟨⟩
    exact ⟨by decide, by decide⟩
  have number : price.number = ((-12345 : ℤ) : ℚ) / 10 ^ 2 := by
    change Decimal.quotient true 123450 4 * 10 ^ (1 : ℤ) = _
    rw [Decimal.quotient, Decimal.sign]
    norm_num
  have cell : numeralCell price = .string "-12.3450e+1" := congrArg Json.string (by decide)
  obtain ⟨-, accepted⟩ := @numeric_cells_are_rounded priceColumn rfl price
  rw [readable.taken_number, cell] at accepted
  obtain ⟨d, decoded, -, held⟩ := accepted (by
    rw [or_iff_right readable.not_far, number]
    norm_num [abs_div])
  refine ⟨rfl, d, decoded, held.mpr ?_, by rw [number]; norm_num⟩
  rw [number]
  exact Decimal.short_held (by decide) (by decide)

def tiny : Numeral where
  mantissa := .belowOne (List.replicate 28 '0' ++ ['1']) (List.all_eq_true.mp rfl)
  exponent := none

/-- A cell with a place more than a decimal has is read as zero, without an error. -/
theorem tiny_cell_is_zero :
    tiny.text = "0.00000000000000000000000000001".toList ∧ tiny.number = 1 / 10 ^ 29 ∧
      ∃ d, decodeValue priceColumn (.string "0.00000000000000000000000000001") = .ok (.numeric d) ∧
        d.value ≠ tiny.number := by
  have number : tiny.number = 1 / 10 ^ 29 := by
    change Decimal.quotient false 1 29 = _
    rw [Decimal.quotient, Decimal.sign]
    norm_num
  refine ⟨by decide, number, ⟨false, 0, 28, by decide, by decide⟩, by rfl, ?_⟩
  rw [(Decimal.is_zero_iff _).mp rfl, number]
  norm_num

end QueryCheck.Warehouse

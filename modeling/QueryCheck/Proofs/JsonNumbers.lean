import QueryCheck.Json.Reader
import QueryCheck.Proofs.Number.FiniteDoubles

/-!
# Numbers inside JSON

A text has no way to write a NaN or an infinity, and the reader refuses a number beyond the doubles:
every double inside a value that is read is finite.
-/

namespace QueryCheck

set_option autoImplicit false

namespace Fields

variable {α : Type} {pair : String × α}

theorem mem_insert {name : String} {value : α} {fields : Fields α}
    (member : pair ∈ fields.insert name value) : pair = (name, value) ∨ pair ∈ fields := by
  induction fields with
  | nil => exact .inl (List.mem_singleton.mp member)
  | cons field rest induction =>
      rw [insert] at member
      split at member
      · rename_i same
        obtain rfl | later := List.mem_cons.mp member
        · exact .inl (by rw [same])
        · exact .inr (List.mem_cons_of_mem _ later)
      · obtain rfl | later := List.mem_cons.mp member
        · exact .inr List.mem_cons_self
        · exact (induction later).imp_right (List.mem_cons_of_mem _)

theorem mem_insert_all {pairs : List (String × α)} {fields : Fields α}
    (member : pair ∈ pairs.foldl (fun written next => insert next.1 next.2 written) fields) :
    pair ∈ fields ∨ pair ∈ pairs := by
  induction pairs generalizing fields with
  | nil => exact .inl member
  | cons next rest induction =>
      obtain written | later := induction member
      · obtain rfl | before := mem_insert written
        · exact .inr List.mem_cons_self
        · exact .inl before
      · exact .inr (List.mem_cons_of_mem _ later)

theorem mem_of_pairs {pairs : List (String × α)} (member : pair ∈ ofPairs pairs) : pair ∈ pairs :=
  (mem_insert_all member).resolve_left List.not_mem_nil

end Fields

namespace Json

/-- One value is a part of another, however deep, or the value itself. -/
inductive Inside (part : Json) : Json → Prop where
  | whole : Inside part part
  | item {items : List Json} {item : Json} (member : item ∈ items) (inside : Inside part item) :
      Inside part (array items)
  | field {fields : List (String × Json)} {name : String} {value : Json} (member : (name, value) ∈ fields)
      (inside : Inside part value) : Inside part (object fields)

/-- As in every JSON value: the format has neither NaN nor infinity. -/
def DoublesFinite (json : Json) : Prop :=
  ∀ x, Inside (float x) json → x.isFinite = true

section parts

variable {items : List Json} {fields : List (String × Json)}

theorem array_finite : DoublesFinite (array items) ↔ ∀ item ∈ items, DoublesFinite item := by
  constructor
  · exact fun finite item member x inside => finite x (.item member inside)
  · intro finite x inside
    cases inside with
    | item member inside => exact finite _ member x inside

theorem object_finite :
    DoublesFinite (object fields) ↔ ∀ field ∈ fields, DoublesFinite field.2 := by
  constructor
  · exact fun finite field member x inside => finite x (.field member inside)
  · intro finite x inside
    cases inside with
    | field member inside => exact finite _ member x inside

end parts

/-! ## Single numbers -/

namespace Significand

theorem push_word {s : Significand} (digits : List Char) (word : s.value < UInt64.size) :
    (ofWhole.push s digits).value < UInt64.size := by
  induction digits generalizing s with
  | nil => exact word
  | cons c rest induction =>
      rw [ofWhole.push]
      split
      · rename_i fits
        exact induction fits.2
      · exact induction word

theorem of_whole_word (digits : List Char) : (ofWhole digits).value < UInt64.size :=
  push_word digits (by decide)

theorem fraction_word {s : Significand} (digits : List Char) (word : s.value < UInt64.size) :
    (s.withFraction digits).value < UInt64.size := by
  induction digits generalizing s with
  | nil => exact word
  | cons c rest induction =>
      rw [withFraction]
      split
      · rename_i fits
        exact induction fits
      · exact word

theorem divide_finite (steps : Nat) {x : Float} {places : Nat} (finite : x.isFinite = true)
    (some : 1 ≤ places) : (toFloat.divide steps x places).isFinite = true := by
  induction steps generalizing x places with
  | zero => exact finite
  | succ steps induction =>
      rw [toFloat.divide]
      split
      · rename_i held
        exact Binary64.quotient_finite finite (Binary64.power_of_ten_above some held)
      · split
        · exact finite
        · have large := @Binary64.power_of_ten_above 308 (by decide) (by decide)
          exact induction (Binary64.quotient_finite finite large) (by omega)

theorem to_float_finite {value : Nat} {exponent : Int} {x : Float} (word : value < UInt64.size)
    (scaled : toFloat ⟨value, exponent⟩ = some x) : x.isFinite = true := by
  unfold toFloat at scaled
  split at scaled
  · split at scaled
    · cases scaled
      decide +kernel
    · cases scaled
  · split at scaled
    · dsimp only at scaled
      split at scaled
      · rename_i finite
        cases scaled
        exact finite
      · cases scaled
    · cases scaled
      exact divide_finite 4 (Binary64.whole_finite word) (by omega)

end Significand

theorem number_finite {negative : Bool} {text rest : List Char} {json : Json}
    (read : number negative text = some (json, rest)) : DoublesFinite json := by
  simp only [number, Option.bind_eq_bind, Option.bind_eq_some_iff] at read
  obtain ⟨⟨parts, behind⟩, -, value, read, same⟩ := read
  cases same
  unfold NumberParts.value at read
  dsimp only at read
  obtain ⟨-, same⟩ | ⟨-, read⟩ := ite_eq_iff.mp read
  · cases same
    exact fun _ => nofun
  · rw [Option.map_eq_some_iff] at read
    obtain ⟨x, scaled, rfl⟩ := read
    have word := Significand.fraction_word (parts.fraction.getD [])
      (Significand.of_whole_word parts.whole)
    rintro _ ⟨⟩
    exact Binary64.with_sign_finite negative (Significand.to_float_finite word scaled)

/-! ## Texts -/

/-- What a reader of so many steps yields has finite doubles only. -/
structure ReadsFinite (steps : Nat) : Prop where
  value {depth : Nat} {text rest : List Char} {json : Json}
    (read : valueWithin steps depth text = some (json, rest)) : DoublesFinite json
  items {depth : Nat} {text rest : List Char} {items : List Json}
    (read : itemsWithin steps depth text = some (items, rest)) : DoublesFinite (array items)
  fields {depth : Nat} {text rest : List Char} {fields : List (String × Json)}
    (read : fieldsWithin steps depth text = some (fields, rest)) : DoublesFinite (object fields)

theorem constant_finite {word rest text : List Char} {json constant : Json}
    (finite : DoublesFinite constant)
    (read : (Text.afterWord word text).map (fun rest => (constant, rest)) = some (json, rest)) :
    DoublesFinite json := by
  rw [Option.map_eq_some_iff] at read
  obtain ⟨behind, -, same⟩ := read
  cases same
  exact finite

section steps

variable {steps depth : Nat} {text rest : List Char} (induction : ReadsFinite steps)
include induction

theorem value_step {json : Json} (read : valueWithin (steps + 1) depth text = some (json, rest)) :
    DoublesFinite json := by
  rw [valueWithin] at read
  split at read
  · exact constant_finite (by rintro _ ⟨⟩) read
  · exact constant_finite (by rintro _ ⟨⟩) read
  · exact constant_finite (by rintro _ ⟨⟩) read
  · rw [Option.map_eq_some_iff] at read
    obtain ⟨body, -, same⟩ := read
    cases same
    exact fun _ => nofun
  · exact number_finite read
  · split at read
    · cases read
    · split at read
      · cases read
        exact array_finite.mpr nofun
      · rw [Option.map_eq_some_iff] at read
        obtain ⟨⟨items, behind⟩, read, same⟩ := read
        cases same
        exact induction.items read
  · split at read
    · cases read
    · split at read
      · cases read
        exact object_finite.mpr nofun
      · rw [Option.map_eq_some_iff] at read
        obtain ⟨⟨fields, behind⟩, read, same⟩ := read
        cases same
        exact induction.fields read
  · exact number_finite read

theorem items_step {items : List Json}
    (read : itemsWithin (steps + 1) depth text = some (items, rest)) : DoublesFinite (array items) := by
  simp only [itemsWithin, Option.bind_eq_bind, Option.bind_eq_some_iff] at read
  obtain ⟨⟨item, behind⟩, first, read⟩ := read
  have finite := induction.value first
  dsimp only at read
  split at read
  · cases read
    exact array_finite.mpr (List.forall_mem_singleton.mpr finite)
  · simp only [Option.bind_eq_some_iff] at read
    obtain ⟨⟨others, behindOthers⟩, later, same⟩ := read
    cases same
    exact array_finite.mpr (List.forall_mem_cons.mpr ⟨finite, array_finite.mp (induction.items later)⟩)
  · cases read

theorem fields_step {fields : List (String × Json)}
    (read : fieldsWithin (steps + 1) depth text = some (fields, rest)) : DoublesFinite (object fields) := by
  rw [fieldsWithin] at read
  split at read
  · simp only [Option.bind_eq_bind, Option.bind_eq_some_iff] at read
    obtain ⟨⟨name, behind⟩, -, read⟩ := read
    dsimp only at read
    split at read
    · simp only [Option.bind_eq_some_iff] at read
      obtain ⟨⟨value, behindValue⟩, first, read⟩ := read
      have finite := induction.value first
      dsimp only at read
      split at read
      · cases read
        exact object_finite.mpr (List.forall_mem_singleton.mpr finite)
      · simp only [Option.bind_eq_some_iff] at read
        obtain ⟨⟨others, behindOthers⟩, later, same⟩ := read
        cases same
        exact object_finite.mpr
          (List.forall_mem_cons.mpr ⟨finite, object_finite.mp (induction.fields later)⟩)
      · cases read
    · cases read
  · cases read

end steps

-- On the steps that are left, which values, items and fields take from one another.
theorem reads_finite : ∀ steps, ReadsFinite steps
  | 0 => ⟨nofun, nofun, nofun⟩
  | steps + 1 =>
    have induction := reads_finite steps
    ⟨value_step induction, items_step induction, fields_step induction⟩

mutual

/-- Merging the fields of an object invents no value. -/
theorem merged_finite : ∀ {json : Json}, DoublesFinite json → DoublesFinite json.merged
  | .null, finite | .bool _, finite | .integer _, finite | .float _, finite | .string _, finite => finite
  | .array _, finite => by
    rw [merged]
    exact array_finite.mpr (merged_items_finite (array_finite.mp finite))
  | .object _, finite => by
    rw [merged]
    exact object_finite.mpr fun field member =>
      merged_fields_finite (object_finite.mp finite) field (Fields.mem_of_pairs member)

theorem merged_items_finite : ∀ {items : List Json}, (∀ item ∈ items, DoublesFinite item) →
    ∀ item ∈ mergedItems items, DoublesFinite item
  | [], _ => nofun
  | _ :: _, finite => by
    obtain ⟨first, others⟩ := List.forall_mem_cons.mp finite
    exact List.forall_mem_cons.mpr ⟨merged_finite first, merged_items_finite others⟩

theorem merged_fields_finite : ∀ {fields : List (String × Json)},
    (∀ field ∈ fields, DoublesFinite field.2) → ∀ field ∈ mergedFields fields, DoublesFinite field.2
  | [], _ => nofun
  | (_, _) :: _, finite => by
    obtain ⟨first, others⟩ := List.forall_mem_cons.mp finite
    exact List.forall_mem_cons.mpr ⟨merged_finite first, merged_fields_finite others⟩

end

/-- A value that is read has finite doubles only. -/
theorem read_finite {depth : Nat} {text : List Char} {json : Json} (read : read? depth text = some json) :
    DoublesFinite json := by
  rw [read?, Option.map_eq_some_iff] at read
  obtain ⟨written, read, rfl⟩ := read
  unfold readWritten? at read
  split at read
  · rename_i value rest within
    split at read
    · cases read
      exact merged_finite ((reads_finite _).value within)
    · cases read
  · cases read

end Json

end QueryCheck

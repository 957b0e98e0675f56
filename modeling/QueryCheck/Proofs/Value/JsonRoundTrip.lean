import QueryCheck.Fixture
import QueryCheck.Proofs.Except
import QueryCheck.Proofs.JsonNumbers
import QueryCheck.Proofs.Value.WholeNumbers

/-!
# JSON there and back

Both conversions follow the nesting of their argument and keep the order of items and fields, so each
undoes the other. Only numbers need care: a whole number beyond INT64 becomes a FLOAT64, and a FLOAT64
that JSON has no number for becomes a text.
-/

namespace QueryCheck

set_option autoImplicit false

/-- No whole number inside lies outside the range of INT64. -/
def Json.IntegersFit (json : Json) : Prop :=
  ∀ n, Inside (integer n) json → InRange n

namespace Value

theorem fitting_integer {n : Int} (range : InRange n) : ofJson (.integer n) = int64 (Int64.ofInt n) := by
  have fits : int64OfInt n = some (Int64.ofInt n) := if_pos range
  rw [ofJson, fits]

/-! ## Every JSON value -/

mutual

theorem json_restored : ∀ {json : Json}, json.DoublesFinite → json.IntegersFit → (ofJson json).toJson = json
  | .null, _, _ | .bool _, _, _ | .string _, _, _ => rfl
  | .integer _, _, fit => by
    have range := fit _ .whole
    rw [fitting_integer range, toJson, Int64.toInt_ofInt_of_le range.1 range.2]
  | .float _, finite, _ => if_pos (finite _ .whole)
  | .array _, finite, fit => by
    rw [ofJson, toJson, items_restored (Json.array_finite.mp finite)
      fun _ member n inside => fit n (.item member inside)]
  | .object _, finite, fit => by
    rw [ofJson, toJson, fields_restored (Json.object_finite.mp finite)
      fun _ member n inside => fit n (.field member inside)]

theorem items_restored : ∀ {items : List Json}, (∀ item ∈ items, item.DoublesFinite) →
    (∀ item ∈ items, item.IntegersFit) → toJsonItems (ofJsonItems items) = items
  | [], _, _ => rfl
  | _ :: _, finite, fit => by
    obtain ⟨firstFinite, finite⟩ := List.forall_mem_cons.mp finite
    obtain ⟨firstFits, fit⟩ := List.forall_mem_cons.mp fit
    rw [ofJsonItems, toJsonItems, json_restored firstFinite firstFits, items_restored finite fit]

theorem fields_restored : ∀ {fields : List (String × Json)}, (∀ field ∈ fields, field.2.DoublesFinite) →
    (∀ field ∈ fields, field.2.IntegersFit) → toJsonFields (ofJsonFields fields) = fields
  | [], _, _ => rfl
  | (_, _) :: _, finite, fit => by
    obtain ⟨firstFinite, finite⟩ := List.forall_mem_cons.mp finite
    obtain ⟨firstFits, fit⟩ := List.forall_mem_cons.mp fit
    rw [ofJsonFields, toJsonFields, json_restored firstFinite firstFits, fields_restored finite fit]

end

/-! ## Rows of a fixture -/

/-- The rows are the objects of the array, one by one and in their order. -/
theorem rows_of_objects {items : List Json} {index : Nat} {rows : List Row}
    (read : Fixture.rowsFrom index items = .ok rows) :
    ∃ objects : List (List (String × Json)),
      items = objects.map .object ∧ rows = objects.map ofJsonFields := by
  induction items generalizing index rows with
  | nil =>
      cases read
      exact ⟨[], rfl, rfl⟩
  | cons item rest induction =>
      cases item with
      | object fields =>
          rw [Fixture.rowsFrom, except_bind_ok] at read
          obtain ⟨others, later, same⟩ := read
          cases same
          obtain ⟨objects, rfl, rfl⟩ := induction later
          exact ⟨fields :: objects, rfl, rfl⟩
      | null | bool | integer | float | string | array => cases read

theorem rows_read {text : String} {rows : List Row} (read : Fixture.readRows text = .ok rows) :
    ∃ objects : List (List (String × Json)),
      Json.read? Fixture.maxDepth text.toList = some (.array (objects.map .object)) ∧
        rows = objects.map ofJsonFields := by
  unfold Fixture.readRows at read
  split at read
  · rename_i json parsed
    cases json with
    | array items =>
        obtain ⟨objects, rfl, same⟩ := rows_of_objects read
        exact ⟨objects, parsed, same⟩
    | null | bool | integer | float | string | object => cases read
  · cases read

/-! ## Values with a JSON form of their own -/

/-- The values that JSON holds as they are, rather than as a text -/
inductive Plain : Value → Prop where
  | null : Plain null
  | bool (b : Bool) : Plain (bool b)
  | int64 (n : Int64) : Plain (int64 n)
  | float64 {x : Float} (finite : x.isFinite = true) : Plain (float64 x)
  | string (text : String) : Plain (string text)
  | array {items : List Value} (plain : ∀ item ∈ items, Plain item) : Plain (array items)
  | struct {fields : List (String × Value)} (plain : ∀ field ∈ fields, Plain field.2) : Plain (struct fields)

mutual

theorem plain_restored : ∀ {value : Value}, Plain value → ofJson value.toJson = value
  | _, .null | _, .bool _ | _, .string _ => rfl
  | _, .int64 n => by
    rw [toJson, ofJson, int64_of_int_some_iff.mpr (rfl : n.toInt = n.toInt)]
  | _, .float64 finite => by
    rw [toJson, if_pos finite, ofJson]
  | _, .array plain => by
    rw [toJson, ofJson, plain_items_restored plain]
  | _, .struct plain => by
    rw [toJson, ofJson, plain_fields_restored plain]

theorem plain_items_restored : ∀ {items : List Value}, (∀ item ∈ items, Plain item) →
    ofJsonItems (toJsonItems items) = items
  | [], _ => rfl
  | _ :: _, plain => by
    obtain ⟨first, others⟩ := List.forall_mem_cons.mp plain
    rw [toJsonItems, ofJsonItems, plain_restored first, plain_items_restored others]

theorem plain_fields_restored : ∀ {fields : List (String × Value)}, (∀ field ∈ fields, Plain field.2) →
    ofJsonFields (toJsonFields fields) = fields
  | [], _ => rfl
  | (_, _) :: _, plain => by
    obtain ⟨first, others⟩ := List.forall_mem_cons.mp plain
    rw [toJsonFields, ofJsonFields, plain_restored first, plain_fields_restored others]

end

/-- A JSON value is what its value is written as, unless it holds a whole number beyond INT64. So each row
of a fixture is written as the object it was read from, and there are no other rows. A value with a JSON
form of its own is what its JSON is read as. -/
theorem json_round_trip :
    (∀ json : Json, json.DoublesFinite → json.IntegersFit → (ofJson json).toJson = json) ∧
      (∀ (text : String) (rows : List Row), Fixture.readRows text = .ok rows →
        ∃ objects : List (List (String × Json)),
          Json.read? Fixture.maxDepth text.toList = some (.array (objects.map .object)) ∧
            rows.length = objects.length ∧
            ∀ (i : Nat) (row : Row) (fields : List (String × Json)), rows[i]? = some row →
              objects[i]? = some fields → (Json.object fields).IntegersFit → rowJson row = .object fields) ∧
      ∀ value : Value, Plain value → ofJson value.toJson = value := by
  refine ⟨fun _ => json_restored, ?_, fun _ => plain_restored⟩
  intro text rows read
  obtain ⟨objects, parsed, rfl⟩ := rows_read read
  refine ⟨objects, parsed, List.length_map _, ?_⟩
  intro i row fields rowAt objectAt fit
  rw [List.getElem?_map, objectAt] at rowAt
  cases rowAt
  have finite := Json.array_finite.mp (Json.read_finite parsed) _
    (List.mem_map_of_mem (List.mem_of_getElem? objectAt))
  exact json_restored finite fit

/-! A row with a list of numbers, as text, JSON and row -/

def ratedText : String :=
  "[\x7b\"id\": 7, \"rates\": [0.5, null]\x7d]"

def ratedFields : List (String × Json) :=
  [("id", .integer 7), ("rates", .array [.float 0.5, .null])]

def ratedRow : Row :=
  [("id", int64 7), ("rates", array [float64 0.5, null])]

set_option maxRecDepth 2000 in
theorem rated_text_read :
    Json.read? Fixture.maxDepth ratedText.toList = some (.array [.object ratedFields]) := by
  unfold ratedText
  simp only [String.reduceToList]
  rfl

theorem rated_fit : (Json.object ratedFields).IntegersFit := by
  rintro n (_ | _ | ⟨member, inside⟩)
  simp only [ratedFields, List.mem_cons, Prod.mk.injEq, List.not_mem_nil, or_false] at member
  obtain ⟨-, rfl⟩ | ⟨-, rfl⟩ := member
  · cases inside
    exact ⟨by decide, by decide⟩
  · cases inside with
    | item member inside =>
        simp only [List.mem_cons, List.not_mem_nil, or_false] at member
        obtain rfl | rfl := member <;> cases inside

theorem rated_row_plain : Plain (struct ratedRow) := by
  have half : (0.5 : Float).isFinite = true := by decide +kernel
  have rates : ∀ rate ∈ [float64 0.5, null], Plain rate :=
    List.forall_mem_cons.mpr ⟨.float64 half, List.forall_mem_singleton.mpr .null⟩
  exact .struct (List.forall_mem_cons.mpr ⟨.int64 7, List.forall_mem_singleton.mpr (.array rates)⟩)

theorem rated_row_round_trip :
    ((Json.object ratedFields).DoublesFinite ∧ (Json.object ratedFields).IntegersFit ∧
        (ofJson (.object ratedFields)).toJson = .object ratedFields) ∧
      (Fixture.readRows ratedText = .ok [ratedRow] ∧ rowJson ratedRow = .object ratedFields) ∧
      Plain (struct ratedRow) ∧ ofJson (struct ratedRow).toJson = struct ratedRow := by
  have finite : (Json.object ratedFields).DoublesFinite :=
    Json.array_finite.mp (Json.read_finite rated_text_read) _ List.mem_cons_self
  have read : Fixture.readRows ratedText = .ok [ratedRow] := by
    rw [Fixture.readRows, rated_text_read]
    rfl
  obtain ⟨jsons, rows, values⟩ := json_round_trip
  refine ⟨⟨finite, rated_fit, jsons _ finite rated_fit⟩, ⟨read, ?_⟩, rated_row_plain,
    values _ rated_row_plain⟩
  obtain ⟨objects, parsed, count, each⟩ := rows _ _ read
  have same := Json.array.inj (Option.some.inj (parsed.symm.trans rated_text_read))
  obtain ⟨fields, rfl, single⟩ := List.map_eq_singleton_iff.mp same
  cases single
  exact each 0 _ _ rfl rfl rated_fit

end Value

end QueryCheck

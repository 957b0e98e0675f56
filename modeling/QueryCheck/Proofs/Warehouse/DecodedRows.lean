import Mathlib.Data.List.Nodup
import QueryCheck.Proofs.Except
import QueryCheck.Warehouse.Cell

/-!
# Decoded rows

A row is decoded if and only if it has the shape that its columns ask for, at every level: a list of as
many cells as there are columns, a list where a column is repeated, a row inside a struct, and elsewhere a
text that the type of the column reads. Every value then comes from the cell at the place of its column.
-/

namespace QueryCheck

set_option autoImplicit false

namespace Fields

variable {α : Type} {name : String} {value : α} {fields : Fields α}

theorem insert_new (absent : name ∉ fields.names) : fields.insert name value = fields ++ [(name, value)] := by
  induction fields with
  | nil => rfl
  | cons field rest induction =>
      rw [names, List.map_cons, List.mem_cons, not_or] at absent
      rw [insert, if_neg fun same => absent.1 same.symm, induction absent.2, List.cons_append]

theorem insert_all_distinct (fields pairs : Fields α) (distinct : (fields ++ pairs).names.Nodup) :
    pairs.foldl (fun written pair => insert pair.1 pair.2 written) fields = fields ++ pairs := by
  induction pairs generalizing fields with
  | nil => rw [List.foldl_nil, List.append_nil]
  | cons pair rest induction =>
      have split : fields ++ pair :: rest = fields ++ [pair] ++ rest := by
        rw [List.append_assoc, List.singleton_append]
      have absent : pair.1 ∉ fields.names := by
        rw [names, List.map_append, List.map_cons] at distinct
        exact fun member => List.disjoint_of_nodup_append distinct member List.mem_cons_self
      rw [split] at distinct
      rw [List.foldl_cons, insert_new absent, induction _ distinct, split]

/-- Pairs with distinct names are fields as they stand. -/
theorem of_pairs_distinct {pairs : List (String × α)} (distinct : (names pairs).Nodup) :
    ofPairs pairs = pairs :=
  insert_all_distinct [] pairs distinct

end Fields

namespace Warehouse

/-! ## Values of a type -/

def CellType.kind : CellType → Kind
  | int64 => .int64
  | float64 => .float64
  | numeric => .numeric
  | bool => .bool
  | bytes => .bytes
  | timestamp => .timestamp
  | date => .date
  | datetime => .datetime
  | time => .time
  | text => .string

theorem read_kind {type : CellType} {text : String} {value : Value} (read : type.read? text = some value) :
    value.kind = type.kind := by
  cases type with
  | text =>
      cases read
      rfl
  | _ =>
      obtain ⟨_, -, rfl⟩ := Option.map_eq_some_iff.mp read
      rfl

/-! ## What a row stands for -/

/-- Columns side by side have distinct names, at every level. -/
inductive DistinctNames : List FieldSchema → Prop where
  | intro {fields : List FieldSchema} (siblings : (fields.map FieldSchema.name).Nodup)
      (inner : ∀ field ∈ fields, DistinctNames field.fields) : DistinctNames fields

mutual

/-- One value of a column -/
inductive ValueOf : FieldSchema → Json → Value → Prop where
  | null (field : FieldSchema) : ValueOf field .null .null
  | struct {field : FieldSchema} {record : Json} {row : Row} (nested : isStruct field.type = true)
      (decoded : RowOf field.fields record row) : ValueOf field record (.struct row)
  | scalar {field : FieldSchema} {text : String} {value : Value} (plain : isStruct field.type = false)
      (read : (CellType.ofName field.type).read? text = some value)
      (typed : value.kind = (CellType.ofName field.type).kind) : ValueOf field (.string text) value

/-- The values of a repeated column -/
inductive ItemsOf : FieldSchema → List Json → List Value → Prop where
  | nil (field : FieldSchema) : ItemsOf field [] []
  | cons {field : FieldSchema} {item : Json} {items : List Json} {value : Value} {values : List Value}
      (first : ValueOf field (cellValue item) value) (others : ItemsOf field items values) :
      ItemsOf field (item :: items) (value :: values)

/-- What stands in the cell of a column -/
inductive CellOf : FieldSchema → Json → Value → Prop where
  | once {field : FieldSchema} {json : Json} {value : Value} (single : field.isRepeated = false)
      (decoded : ValueOf field json value) : CellOf field json value
  | absent {field : FieldSchema} (repeated : field.isRepeated = true) : CellOf field .null (.array [])
  | list {field : FieldSchema} {items : List Json} {values : List Value}
      (repeated : field.isRepeated = true) (decoded : ItemsOf field items values) :
      CellOf field (.array items) (.array values)

/-- The columns of a row, each with the cell at its place -/
inductive CellsOf : List FieldSchema → List Json → Row → Prop where
  | nil : CellsOf [] [] []
  | cons {field : FieldSchema} {fields : List FieldSchema} {cell : Json} {cells : List Json} {value : Value}
      {row : Row} (first : CellOf field (cellValue cell) value) (others : CellsOf fields cells row) :
      CellsOf (field :: fields) (cell :: cells) ((field.name, value) :: row)

inductive RowOf : List FieldSchema → Json → Row → Prop where
  | intro {fields : List FieldSchema} {record : Json} {cells : List Json} {row : Row}
      (found : cells? record = some cells) (decoded : CellsOf fields cells row) : RowOf fields record row

end

/-! ## The shape of a row -/

mutual

inductive ValueShape : FieldSchema → Json → Prop where
  | null (field : FieldSchema) : ValueShape field .null
  | struct {field : FieldSchema} {record : Json} (nested : isStruct field.type = true)
      (shaped : RowShape field.fields record) : ValueShape field record
  | scalar {field : FieldSchema} {text : String} (plain : isStruct field.type = false)
      (accepted : (CellType.ofName field.type).read? text ≠ none) : ValueShape field (.string text)

inductive CellShape : FieldSchema → Json → Prop where
  | once {field : FieldSchema} {json : Json} (single : field.isRepeated = false)
      (shaped : ValueShape field json) : CellShape field json
  | absent {field : FieldSchema} (repeated : field.isRepeated = true) : CellShape field .null
  | list {field : FieldSchema} {items : List Json} (repeated : field.isRepeated = true)
      (shaped : ∀ item ∈ items, ValueShape field (cellValue item)) : CellShape field (.array items)

inductive RowShape : List FieldSchema → Json → Prop where
  | intro {fields : List FieldSchema} {record : Json} {cells : List Json}
      (found : cells? record = some cells) (count : cells.length = fields.length)
      (shaped : ∀ pair ∈ fields.zip cells, CellShape pair.1 (cellValue pair.2)) : RowShape fields record

end

/-! ## Decoding by columns -/

theorem decode_null (field : FieldSchema) : decodeValue field .null = .ok .null := by
  cases field
  rw [decodeValue]

theorem decode_struct {field : FieldSchema} (nested : isStruct field.type = true) {json : Json}
    (present : json ≠ .null) :
    decodeValue field json = (decodeRow field.fields json).map .struct := by
  cases field with
  | mk name type mode fields =>
      have nested : isStruct type = true := nested
      change _ = (decodeRow fields json).map Value.struct
      rw [decodeValue, if_pos nested, decodeRow]
      · cases cells? json with
        | none => rfl
        | some cells =>
            dsimp only
            split
            · rfl
            · cases decodeFields fields cells <;> rfl
      · exact present

theorem decode_scalar {field : FieldSchema} (plain : isStruct field.type = false) {json : Json}
    (present : json ≠ .null) : decodeValue field json = decodeText field json := by
  cases field with
  | mk name type mode fields =>
      have plain : isStruct type = false := plain
      rw [decodeValue, plain]
      · rfl
      · exact present

theorem decode_text_iff {field : FieldSchema} {json : Json} {value : Value} :
    decodeText field json = .ok value ↔
      ∃ text, json = .string text ∧ (CellType.ofName field.type).read? text = some value := by
  rw [decodeText]
  cases json with
  | string text =>
      simp only [Json.string?, Json.string.injEq, exists_eq_left']
      cases (CellType.ofName field.type).read? text <;> simp
  | _ => simp [Json.string?]

/-! ## What is decoded -/

variable {field : FieldSchema} {fields : List FieldSchema}

theorem decode_items_iff {decode : Json → Decoding Value}
    (value : ∀ json value, decode json = .ok value ↔ ValueOf field json value) (items : List Json)
    (values : List Value) : decodeItems decode items = .ok values ↔ ItemsOf field items values := by
  induction items generalizing values with
  | nil =>
      rw [decodeItems, Except.ok.injEq]
      constructor
      · rintro rfl
        exact .nil field
      · rintro ⟨⟩
        rfl
  | cons item rest induction =>
      simp only [decodeItems, except_bind_ok, value, induction, Except.ok.injEq]
      constructor
      · rintro ⟨first, decoded, others, later, rfl⟩
        exact .cons decoded later
      · rintro (_ | ⟨decoded, later⟩)
        exact ⟨_, decoded, _, later, rfl⟩

theorem cell_once {json : Json} {value : Value} (single : field.isRepeated = false)
    (cell : CellOf field json value) : ValueOf field json value := by
  cases cell with
  | once _ decoded => exact decoded
  | absent repeated => rw [repeated] at single; cases single
  | list repeated _ => rw [repeated] at single; cases single

theorem cell_repeated {json : Json} {value : Value} (repeated : field.isRepeated = true)
    (cell : CellOf field json value) :
    json = .null ∧ value = .array [] ∨
      ∃ items values, json = .array items ∧ value = .array values ∧ ItemsOf field items values := by
  cases cell with
  | once single _ => rw [repeated] at single; cases single
  | absent _ => exact .inl ⟨rfl, rfl⟩
  | list _ decoded => exact .inr ⟨_, _, rfl, rfl, decoded⟩

theorem decode_cell_iff {decode : Json → Decoding Value}
    (value : ∀ json value, decode json = .ok value ↔ ValueOf field json value) (json : Json)
    (result : Value) : decodeCell field decode json = .ok result ↔ CellOf field json result := by
  unfold decodeCell
  cases repeated : field.isRepeated with
  | false =>
      rw [if_neg Bool.false_ne_true, value]
      exact ⟨.once repeated, cell_once repeated⟩
  | true =>
      rw [if_pos rfl]
      constructor
      · intro decoded
        split at decoded
        · cases decoded
          exact .absent repeated
        · obtain ⟨values, made, rfl⟩ := except_map_ok.mp decoded
          exact .list repeated ((decode_items_iff value _ values).mp made)
        · cases decoded
      · intro cell
        rcases cell_repeated repeated cell with ⟨rfl, rfl⟩ | ⟨items, values, rfl, rfl, decoded⟩
        · rfl
        · exact except_map_ok.mpr ⟨values, (decode_items_iff value items values).mpr decoded, rfl⟩

theorem cells_names {cells : List Json} {row : Row} (aligned : CellsOf fields cells row) :
    cells.length = fields.length ∧ row.names = fields.map FieldSchema.name := by
  induction fields generalizing cells row with
  | nil =>
      cases aligned
      exact ⟨rfl, rfl⟩
  | cons field rest induction =>
      obtain - | ⟨first, others⟩ := aligned
      obtain ⟨count, names⟩ := induction others
      exact ⟨congrArg (· + 1) count, congrArg (field.name :: ·) names⟩

theorem row_of_iff {record : Json} {row : Row} :
    RowOf fields record row ↔ ∃ cells, cells? record = some cells ∧ CellsOf fields cells row := by
  constructor
  · rintro ⟨found, aligned⟩
    exact ⟨_, found, aligned⟩
  · rintro ⟨cells, found, aligned⟩
    exact .intro found aligned

/-- With distinct names, the fields of a row are the values of its columns in turn. -/
theorem decode_row_of_fields (siblings : (fields.map FieldSchema.name).Nodup)
    (columns : ∀ cells row, decodeFields fields cells = .ok row ∧ cells.length = fields.length ↔
      CellsOf fields cells row) (record : Json) (row : Row) :
    decodeRow fields record = .ok row ↔ RowOf fields record row := by
  rw [decodeRow, row_of_iff]
  cases found : cells? record with
  | none => simp
  | some cells =>
      dsimp only
      simp only [Option.some.injEq, exists_eq_left']
      rw [← columns]
      by_cases count : cells.length = fields.length
      · rw [if_neg (not_not.mpr count), except_map_ok, and_iff_left count]
        have kept : ∀ pairs, decodeFields fields cells = .ok pairs → Fields.ofPairs pairs = pairs := by
          intro pairs decoded
          refine Fields.of_pairs_distinct ?_
          rw [(cells_names ((columns cells pairs).mp ⟨decoded, count⟩)).2]
          exact siblings
        constructor
        · rintro ⟨pairs, decoded, rfl⟩
          rw [kept pairs decoded]
          exact decoded
        · intro decoded
          exact ⟨row, decoded, kept row decoded⟩
      · rw [if_pos count]
        exact iff_of_false nofun fun aligned => count aligned.2

theorem value_null_iff {value : Value} : ValueOf field .null value ↔ value = .null := by
  constructor
  · intro decoded
    cases decoded with
    | null => rfl
    | struct nested decoded =>
        obtain ⟨found, -⟩ := decoded
        cases found
  · rintro rfl
    exact .null field

theorem value_struct_iff (nested : isStruct field.type = true) {json : Json} (present : json ≠ .null)
    {value : Value} :
    ValueOf field json value ↔ ∃ row, RowOf field.fields json row ∧ .struct row = value := by
  constructor
  · intro decoded
    cases decoded with
    | null => exact absurd rfl present
    | struct _ decoded => exact ⟨_, decoded, rfl⟩
    | scalar plain _ _ => rw [nested] at plain; cases plain
  · rintro ⟨row, decoded, rfl⟩
    exact .struct nested decoded

theorem value_scalar_iff (plain : isStruct field.type = false) {json : Json} (present : json ≠ .null)
    {value : Value} : ValueOf field json value ↔
      ∃ text, json = .string text ∧ (CellType.ofName field.type).read? text = some value := by
  constructor
  · intro decoded
    cases decoded with
    | null => exact absurd rfl present
    | struct nested _ => rw [plain] at nested; cases nested
    | scalar _ read _ => exact ⟨_, rfl, read⟩
  · rintro ⟨text, rfl, read⟩
    exact .scalar plain read (read_kind read)

theorem decode_value_of_row
    (row : ∀ record row, decodeRow field.fields record = .ok row ↔ RowOf field.fields record row)
    (json : Json) (value : Value) : decodeValue field json = .ok value ↔ ValueOf field json value := by
  by_cases missing : json = .null
  · rw [missing, decode_null, value_null_iff, Except.ok.injEq, eq_comm]
  · cases nested : isStruct field.type with
    | true =>
        rw [decode_struct nested missing, except_map_ok, value_struct_iff nested missing]
        simp only [row]
    | false => rw [decode_scalar nested missing, decode_text_iff, value_scalar_iff nested missing]

theorem decode_no_fields (cells : List Json) (row : Row) :
    decodeFields [] cells = .ok row ∧ cells.length = 0 ↔ CellsOf [] cells row := by
  rw [decodeFields, Except.ok.injEq, List.length_eq_zero_iff]
  · constructor
    · rintro ⟨rfl, rfl⟩
      exact .nil
    · rintro ⟨⟩
      exact ⟨rfl, rfl⟩
  · rintro _ _ _ _ ⟨⟩

theorem decode_fields_cons {field : FieldSchema} {cell : Json} {cells : List Json} {row : Row}
    (first : ∀ json value, decodeValue field json = .ok value ↔ ValueOf field json value)
    (others : ∀ row, decodeFields fields cells = .ok row ∧ cells.length = fields.length ↔
      CellsOf fields cells row) :
    decodeFields (field :: fields) (cell :: cells) = .ok row ∧
        (cell :: cells).length = (field :: fields).length ↔
      CellsOf (field :: fields) (cell :: cells) row := by
  have count : (cell :: cells).length = (field :: fields).length ↔ cells.length = fields.length :=
    Nat.add_right_cancel_iff
  simp only [decodeFields, except_bind_ok, count, decode_cell_iff first, Except.ok.injEq]
  constructor
  · rintro ⟨⟨value, decoded, rest, later, rfl⟩, same⟩
    exact .cons decoded ((others rest).mp ⟨later, same⟩)
  · rintro (_ | ⟨decoded, later⟩)
    obtain ⟨later, same⟩ := (others _).mpr later
    exact ⟨⟨_, decoded, _, later, rfl⟩, same⟩

mutual

theorem decode_value_iff (field : FieldSchema) (distinct : DistinctNames field.fields) (json : Json)
    (value : Value) : decodeValue field json = .ok value ↔ ValueOf field json value := by
  match field, distinct with
  | .mk _ _ _ fields, .intro siblings inner =>
      refine decode_value_of_row (fun record row => ?_) json value
      exact decode_row_of_fields siblings (decode_fields_iff fields inner) record row

theorem decode_fields_iff (fields : List FieldSchema)
    (inner : ∀ field ∈ fields, DistinctNames field.fields) (cells : List Json) (row : Row) :
    decodeFields fields cells = .ok row ∧ cells.length = fields.length ↔ CellsOf fields cells row := by
  match fields, cells with
  | [], cells => exact decode_no_fields cells row
  | _ :: _, [] => exact iff_of_false (fun decoded => Nat.succ_ne_zero _ decoded.2.symm) nofun
  | field :: fields, cell :: cells =>
      obtain ⟨first, others⟩ := List.forall_mem_cons.mp inner
      exact decode_fields_cons (decode_value_iff field first) (decode_fields_iff fields others cells)

end

mutual

theorem shape_of_value {field : FieldSchema} {json : Json} {value : Value} :
    ValueOf field json value → ValueShape field json
  | .null field => .null field
  | .struct nested decoded => .struct nested (shape_of_row decoded)
  | .scalar plain read _ => .scalar plain (by rw [read]; exact Option.some_ne_none _)

theorem shape_of_items {field : FieldSchema} {items : List Json} {values : List Value} :
    ItemsOf field items values → ∀ item ∈ items, ValueShape field (cellValue item)
  | .nil _ => List.forall_mem_nil _
  | .cons first others => List.forall_mem_cons.mpr ⟨shape_of_value first, shape_of_items others⟩

theorem shape_of_cell {field : FieldSchema} {json : Json} {value : Value} :
    CellOf field json value → CellShape field json
  | .once single decoded => .once single (shape_of_value decoded)
  | .absent repeated => .absent repeated
  | .list repeated decoded => .list repeated (shape_of_items decoded)

theorem shape_of_cells {fields : List FieldSchema} {cells : List Json} {row : Row} :
    CellsOf fields cells row → ∀ pair ∈ fields.zip cells, CellShape pair.1 (cellValue pair.2)
  | .nil => List.forall_mem_nil _
  | .cons first others => List.forall_mem_cons.mpr ⟨shape_of_cell first, shape_of_cells others⟩

theorem shape_of_row {fields : List FieldSchema} {record : Json} {row : Row} :
    RowOf fields record row → RowShape fields record
  | .intro found aligned => .intro found (cells_names aligned).1 (shape_of_cells aligned)

end

theorem items_of_shape {items : List Json}
    (each : ∀ item ∈ items, ∃ value, ValueOf field (cellValue item) value) :
    ∃ values, ItemsOf field items values := by
  induction items with
  | nil => exact ⟨[], .nil field⟩
  | cons item rest induction =>
      obtain ⟨⟨value, first⟩, others⟩ := List.forall_mem_cons.mp each
      obtain ⟨values, later⟩ := induction others
      exact ⟨value :: values, .cons first later⟩

theorem cells_of_shape {cells : List Json} (count : cells.length = fields.length)
    (each : ∀ pair ∈ fields.zip cells, ∃ value, CellOf pair.1 (cellValue pair.2) value) :
    ∃ row, CellsOf fields cells row := by
  induction fields generalizing cells with
  | nil =>
      obtain rfl := List.length_eq_zero_iff.mp count
      exact ⟨[], .nil⟩
  | cons field rest induction =>
      cases cells with
      | nil => cases count
      | cons cell cells =>
          obtain ⟨⟨value, first⟩, others⟩ := List.forall_mem_cons.mp each
          obtain ⟨row, later⟩ := induction (Nat.succ.inj count) others
          exact ⟨(field.name, value) :: row, .cons first later⟩

mutual

theorem value_of_shape {field : FieldSchema} {json : Json} :
    ValueShape field json → ∃ value, ValueOf field json value
  | .null field => ⟨.null, .null field⟩
  | .struct nested shaped =>
      have ⟨row, decoded⟩ := row_of_shape shaped
      ⟨.struct row, .struct nested decoded⟩
  | .scalar plain accepted =>
      have ⟨value, read⟩ := Option.ne_none_iff_exists'.mp accepted
      ⟨value, .scalar plain read (read_kind read)⟩

theorem cell_of_shape {field : FieldSchema} {json : Json} :
    CellShape field json → ∃ value, CellOf field json value
  | .once single shaped =>
      have ⟨value, decoded⟩ := value_of_shape shaped
      ⟨value, .once single decoded⟩
  | .absent repeated => ⟨.array [], .absent repeated⟩
  | .list repeated shaped =>
      have ⟨values, decoded⟩ := items_of_shape fun item member => value_of_shape (shaped item member)
      ⟨.array values, .list repeated decoded⟩

theorem row_of_shape {fields : List FieldSchema} {record : Json} :
    RowShape fields record → ∃ row, RowOf fields record row
  | .intro found count shaped =>
      have ⟨row, decoded⟩ := cells_of_shape count fun pair member => cell_of_shape (shaped pair member)
      ⟨row, .intro found decoded⟩

end

end Warehouse

end QueryCheck

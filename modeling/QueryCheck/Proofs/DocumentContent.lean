import Mathlib.Data.List.Forall2
import QueryCheck.Proofs.SchemaConversion

/-!
# What a document holds

A document that converts holds the text of its query path and, item by item, its parameters, columns,
invariants and cases. This says all of the conversion: what a document holds is what it converts to.
-/

namespace QueryCheck

set_option autoImplicit false

/-! ## Errors that leave the conversion alone -/

/-- The last letter of its message tells a harmless fault from all others. -/
theorem SchemaFault.harmless_last (fault : SchemaFault) :
    fault.Harmless ↔
      fault.message.toList.getLast? = some 'y' ∨ fault.message.toList.getLast? = some 's' := by
  cases fault with
  | missing key => simp [message, Harmless]
  | missingIn part key => simp [message, Harmless, List.getLast?_cons]
  | mistyped part shape => cases shape <;> simp [message, Harmless, Shape.description]
  | nothingToCheck => simp [message, Harmless]
  | unknownKey key => simp [message, Harmless, List.getLast?_cons]
  | notSequence => simp [message, Harmless]

/-- The error of an unknown key, or of a document without anything to check. -/
def SpecError.Harmless (e : SpecError) : Prop :=
  (∃ key place, e = SchemaDefect.toError ⟨.unknownKey key, place⟩) ∨
    ∃ place, e = SchemaDefect.toError ⟨.nothingToCheck, place⟩

theorem harmless_error (defect : SchemaDefect) :
    defect.toError.Harmless ↔ defect.fault.Harmless := by
  constructor
  · intro harmless
    rw [SchemaFault.harmless_last]
    rcases harmless with ⟨key, place, same⟩ | ⟨place, same⟩
    · have message : defect.fault.message = (SchemaFault.unknownKey key).message :=
        congrArg SpecError.message same
      rw [message, ← SchemaFault.harmless_last]
      trivial
    · have message : defect.fault.message = SchemaFault.nothingToCheck.message :=
        congrArg SpecError.message same
      rw [message, ← SchemaFault.harmless_last]
      trivial
  · intro harmless
    obtain ⟨fault, place⟩ := defect
    cases fault with
    | unknownKey key => exact .inl ⟨key, place, rfl⟩
    | nothingToCheck => exact .inr ⟨place, rfl⟩
    | missing key => cases harmless
    | missingIn part key => cases harmless
    | mistyped part shape => cases harmless
    | notSequence => cases harmless

/-! ## The content of a document -/

/-- The part of a document in which a scalar is written. -/
def Scalar.document : Scalar → Document
  | .text value => .text value
  | .integer value => .integer value
  | .float value => .float value
  | .bool value => .bool value

namespace Document

theorem text_some (doc : Document) (text : String) : doc.text? = some text ↔ doc = .text text := by
  cases doc <;> simp [text?]

theorem items_some (doc : Document) (items : List Document) :
    doc.items? = some items ↔ doc = .sequence items := by
  cases doc <;> simp [items?]

theorem scalar_some (doc : Document) (value : Scalar) :
    doc.scalar? = some value ↔ doc = value.document := by
  cases doc <;> cases value <;> simp [scalar?, Scalar.document]

theorem text_under (key : String) (doc : Document) (text : String) :
    (doc.get? key).bind text? = some text ↔ doc.get? key = some (.text text) := by
  simp [Option.bind_eq_some_iff, text_some]

theorem scalar_under (key : String) (doc : Document) (value : Scalar) :
    (doc.get? key).bind scalar? = some value ↔ doc.get? key = some value.document := by
  simp [Option.bind_eq_some_iff, scalar_some]

theorem entries_of_get (doc value : Document) (key : String) (found : doc.get? key = some value) :
    ∃ entries, doc.entries? = some entries := by
  obtain ⟨entries, mapping, -⟩ := Option.bind_eq_some_iff.mp found
  exact ⟨entries, mapping⟩

def HoldsText (item : Document) (text : String) : Prop :=
  item = .text text

structure HoldsParameter (item : Document) (p : RawParameter) : Prop where
  type : item.get? "type" = some (.text p.typeName)
  name : item.get? "name" = some (.text p.name)
  value : item.get? "value" = some p.value.document

structure HoldsCase (item : Document) (c : RawCase) : Prop where
  guards : item.get? "where" = some (.sequence (c.guards.map .text))
  expected : item.get? "expected" = some (.sequence (c.expected.map .text))

/-- Under the key there is a sequence of these values, or there is no such key and no value. -/
def HoldsUnder {α : Type} (key : String) (Held : Document → α → Prop) (doc : Document)
    (values : List α) : Prop :=
  match doc.get? key with
  | none => values = []
  | some list => ∃ items, list = .sequence items ∧ List.Forall₂ Held items values

structure Holds (doc : Document) (raw : RawSpec) : Prop where
  queryPath : doc.get? "query_path" = some (.text raw.queryPath)
  parameters : HoldsUnder "params" HoldsParameter doc raw.parameters
  columns : HoldsUnder "columns" HoldsText doc raw.columns
  invariants : HoldsUnder "invariants" HoldsText doc raw.invariants
  cases : HoldsUnder "cases" HoldsCase doc raw.cases

theorem holds_texts (items : List Document) (texts : List String) :
    List.Forall₂ HoldsText items texts ↔ items = texts.map .text := by
  constructor
  · intro held
    induction held with
    | nil => rfl
    | cons first others induction => rw [List.map_cons, ← first, induction]
  · intro same
    subst same
    rw [List.forall₂_map_left_iff, List.forall₂_same]
    intro text member
    rfl

end Document

namespace RawSpec

variable {α β : Type}

/-! ## Reading parts -/

theorem required_ok (fault : SchemaFault) (place : Location) (found : Option α) (value : α) :
    required fault place found = .ok value ↔ found = some value := by
  cases found <;> simp [required]

/-- The conversion of a part finds what the part holds, and nothing else. -/
def Finds (convert : Document → Location → Conversion α) (Held : Document → α → Prop) : Prop :=
  ∀ item place value, convert item place = .ok value ↔ Held item value

variable {convert : Document → Location → Conversion α} {Held : Document → α → Prop}

theorem elements_found (finds : Finds convert Held) (place : Location) (index : Nat)
    (items : List Document) (values : List α) :
    Location.convertElements convert place index items = .ok values ↔
      List.Forall₂ Held items values := by
  induction items generalizing index values with
  | nil => simp [Location.convertElements, eq_comm]
  | cons item rest induction =>
      simp only [Location.convertElements, except_bind_ok, finds item, induction (index + 1),
        List.forall₂_cons_left_iff, Except.ok.injEq]
      constructor
      · intro converted
        obtain ⟨first, held, others, heldOthers, same⟩ := converted
        exact ⟨first, others, held, heldOthers, same.symm⟩
      · intro held
        obtain ⟨first, others, held, heldOthers, same⟩ := held
        exact ⟨first, held, others, heldOthers, same.symm⟩

theorem sequence_found (key : String) (finds : Finds convert Held) (doc : Document)
    (place : Location) (values : List α) :
    sequenceOf key convert doc place = .ok values ↔
      ∃ items, doc = .sequence items ∧ List.Forall₂ Held items values := by
  simp only [sequenceOf, sequenceItems, except_bind_ok, required_ok, Document.items_some,
    elements_found finds]

theorem optional_found (key : String) (finds : Finds convert Held) (doc : Document)
    (place : Location) (values : List α) :
    optionalSequence key convert doc place = .ok values ↔ doc.HoldsUnder key Held values := by
  unfold optionalSequence Document.HoldsUnder
  cases doc.get? key with
  | none => simp [eq_comm]
  | some list => exact sequence_found key finds list place values

theorem text_item_finds (container : String) : Finds (textItem container) Document.HoldsText := by
  intro item place text
  unfold textItem Document.HoldsText
  rw [required_ok, Document.text_some]

theorem case_texts_found (key : String) (doc : Document) (place : Location) (texts : List String) :
    caseTexts key doc place = .ok texts ↔ doc.get? key = some (.sequence (texts.map .text)) := by
  simp only [caseTexts, except_bind_ok, required_ok, sequence_found key (text_item_finds key),
    Document.holds_texts]
  simp

theorem case_finds : Finds caseOf Document.HoldsCase := by
  intro item place c
  simp only [caseOf, except_bind_ok, case_texts_found, Except.ok.injEq]
  constructor
  · intro converted
    obtain ⟨guards, guardsHeld, expected, expectedHeld, rfl⟩ := converted
    exact ⟨guardsHeld, expectedHeld⟩
  · intro held
    exact ⟨c.guards, held.guards, c.expected, held.expected, rfl⟩

theorem parameter_finds : Finds parameterOf Document.HoldsParameter := by
  intro item place p
  simp only [parameterOf, parameterText, except_bind_ok, required_ok, Document.text_under,
    Document.scalar_under, Except.ok.injEq]
  constructor
  · intro converted
    obtain ⟨value, valueHeld, typeName, typeHeld, name, nameHeld, rfl⟩ := converted
    exact ⟨typeHeld, nameHeld, valueHeld⟩
  · intro held
    exact ⟨p.value, held.value, p.typeName, held.type, p.name, held.name, rfl⟩

/-! ## The whole document -/

theorem of_document_ok (doc : Document) (raw : RawSpec) :
    ofDocument doc = .ok raw ↔ doc.Holds raw := by
  simp only [ofDocument, optionalTexts, except_bind_ok, required_ok, Document.text_under,
    optional_found _ parameter_finds, optional_found _ (text_item_finds _),
    optional_found _ case_finds, Except.ok.injEq]
  constructor
  · intro converted
    obtain ⟨_, -, queryPath, queryPathHeld, parameters, parametersHeld, columns, columnsHeld,
      invariants, invariantsHeld, cases, casesHeld, rfl⟩ := converted
    exact ⟨queryPathHeld, parametersHeld, columnsHeld, invariantsHeld, casesHeld⟩
  · intro held
    obtain ⟨entries, mapping⟩ := doc.entries_of_get _ _ held.queryPath
    exact ⟨entries, mapping, raw.queryPath, held.queryPath, raw.parameters, held.parameters,
      raw.columns, held.columns, raw.invariants, held.invariants, raw.cases, held.cases, rfl⟩

end RawSpec

theorem converts_of_errors (doc : Document) :
    (∃ raw, RawSpec.ofDocument doc = .ok raw) ↔ ∀ e ∈ Schema.errors doc, e.Harmless := by
  rw [Schema.errors, List.forall_mem_map]
  simp only [harmless_error]
  exact RawSpec.of_document_converts doc

/-- A document converts exactly when its errors are those of unknown keys and of the lack of anything
to check, and then it converts to what it holds. -/
theorem conversion_is_content (doc : Document) :
    ((∃ raw, RawSpec.ofDocument doc = .ok raw) ↔ ∀ e ∈ Schema.errors doc, e.Harmless) ∧
      (Schema.errors doc = [] → ∃ raw, RawSpec.ofDocument doc = .ok raw) ∧
      ∀ raw, RawSpec.ofDocument doc = .ok raw ↔ doc.Holds raw := by
  have converts := converts_of_errors doc
  refine ⟨converts, ?_, RawSpec.of_document_ok doc⟩
  intro clean
  apply converts.mpr
  rw [clean]
  nofun

/-- A second query path is passed over. -/
def orderDocument : Document :=
  .mapping [("query_path", .text "q.sql"),
    ("params", .sequence [.mapping [("type", .text "INT64"), ("value", .integer 3),
      ("name", .text "least")]]),
    ("cases", .sequence [.mapping [("expected", .sequence [.text "n >= @least"]),
      ("where", .sequence [])]]),
    ("query_path", .null)]

theorem order_document_is_content :
    Schema.errors orderDocument = [] ∧
      ∃ raw, RawSpec.ofDocument orderDocument = .ok raw ∧ orderDocument.Holds raw := by
  have clean : Schema.errors orderDocument = [] := by rfl
  obtain ⟨-, converts, content⟩ := conversion_is_content orderDocument
  obtain ⟨raw, converted⟩ := converts clean
  exact ⟨clean, raw, converted, (content raw).mp converted⟩

end QueryCheck

import QueryCheck.Proofs.Except
import QueryCheck.Specification.Raw
import QueryCheck.Specification.Schema

/-!
# Documents that convert

The checks of a document and its conversion look at the same parts. Only unknown keys and a document
without checks are defects that leave the conversion alone.
-/

namespace QueryCheck

set_option autoImplicit false

def SchemaFault.Harmless : SchemaFault → Prop
  | .unknownKey _ => True
  | .nothingToCheck => True
  | _ => False

/-- No defect stands in the way of the conversion. -/
def Clears (defects : List SchemaDefect) : Prop :=
  ∀ defect ∈ defects, defect.fault.Harmless

theorem clears_nil : Clears [] := by
  intro defect member
  cases member

theorem clears_append (first second : List SchemaDefect) :
    Clears (first ++ second) ↔ Clears first ∧ Clears second := by
  unfold Clears
  exact List.forall_mem_append

theorem clears_singleton (fault : SchemaFault) (place : Location) :
    Clears [⟨fault, place⟩] ↔ fault.Harmless := by
  simp [Clears]

theorem clears_unknown_keys (known : List String) (entries : List (String × Document))
    (place : Location) : Clears (Schema.unknownKeys known entries place) := by
  intro defect member
  unfold Schema.unknownKeys at member
  obtain ⟨entry, -, rfl⟩ := List.mem_map.mp member
  trivial

namespace RawSpec

variable {α β : Type}

def Converts (result : Conversion α) : Prop :=
  ∃ value, result = .ok value

theorem converts_ok (value : α) : Converts (.ok value) := ⟨value, rfl⟩

theorem converts_bind (first : Conversion α) (next : α → Conversion β) (later : Prop)
    (rest : ∀ value, Converts (next value) ↔ later) :
    Converts (first >>= next) ↔ Converts first ∧ later := by
  unfold Converts at *
  simp only [except_bind_ok]
  constructor
  · intro converted
    rcases converted with ⟨result, value, succeeds, continued⟩
    exact ⟨⟨value, succeeds⟩, (rest value).mp ⟨result, continued⟩⟩
  · intro converted
    rcases converted with ⟨⟨value, succeeds⟩, remaining⟩
    obtain ⟨result, continued⟩ := (rest value).mpr remaining
    exact ⟨result, value, succeeds, continued⟩

theorem converts_required (fault : SchemaFault) (place : Location) (found : Option α) :
    Converts (required fault place found) ↔ found.isSome = true := by
  cases found with
  | none => simp [required, Converts]
  | some value => simp [required, Converts]

/-! ## Sequences -/

/-- A checker and a converter of the same part of a document. -/
def Agrees (check : Document → Location → List SchemaDefect)
    (convert : Document → Location → Conversion α) : Prop :=
  ∀ doc place, Converts (convert doc place) ↔ Clears (check doc place)

variable {check : Document → Location → List SchemaDefect}
  {convert : Document → Location → Conversion α}

theorem elements_agree (agrees : Agrees check convert) (place : Location) (index : Nat)
    (items : List Document) :
    Converts (Location.convertElements convert place index items) ↔
      Clears (Location.collectElements check place index items) := by
  induction items generalizing index with
  | nil => exact iff_of_true (converts_ok []) clears_nil
  | cons item rest induction =>
      unfold Location.convertElements Location.collectElements
      rw [clears_append, ← agrees item (place.element index), ← induction (index + 1)]
      apply converts_bind
      intro first
      rw [converts_bind _ _ True fun others => iff_of_true (converts_ok _) trivial, and_true]

theorem sequence_agrees (key : String) (agrees : Agrees check convert) :
    Agrees (Schema.sequenceDefects key check) (sequenceOf key convert) := by
  intro doc place
  unfold Schema.sequenceDefects sequenceOf sequenceItems
  cases found : doc.items? with
  | none =>
      rw [clears_singleton]
      refine iff_of_false ?_ id
      intro converted
      rcases converted with ⟨value, impossible⟩
      cases impossible
  | some items => exact elements_agree agrees (place.child key) 0 items

theorem optional_agrees (key : String) (agrees : Agrees check convert) (doc : Document)
    (place : Location) :
    Converts (optionalSequence key convert doc place) ↔
      Clears (Schema.optionalKey key (fun value => Schema.sequenceDefects key check value place)
        doc) := by
  unfold optionalSequence Schema.optionalKey
  cases doc.get? key with
  | none => exact iff_of_true (converts_ok []) clears_nil
  | some value => exact sequence_agrees key agrees value place

theorem text_item_agrees (container : String) :
    Agrees (Schema.textElement container) (textItem container) := by
  intro doc place
  unfold Schema.textElement textItem
  rw [converts_required]
  cases doc.text? with
  | none => simp [clears_singleton, SchemaFault.Harmless]
  | some text => exact iff_of_true rfl clears_nil

/-! ## Parameters and cases -/

theorem required_key_agrees (part key : String) (read : Document → Option β)
    (checkValue : Document → List SchemaDefect) (doc : Document) (place : Location)
    (agrees : ∀ value, (read value).isSome = true ↔ Clears (checkValue value)) :
    Converts (required (.missingIn part key) place ((doc.get? key).bind read)) ↔
      Clears (Schema.requiredKey part key checkValue doc place) := by
  rw [converts_required]
  unfold Schema.requiredKey
  cases doc.get? key with
  | none => simp [clears_singleton, SchemaFault.Harmless]
  | some value => exact agrees value

theorem text_agrees (key : String) (place : Location) (doc : Document) :
    doc.text?.isSome = true ↔ Clears (Schema.textDefects key place doc) := by
  unfold Schema.textDefects
  cases doc.text? with
  | none => simp [clears_singleton, SchemaFault.Harmless]
  | some text => exact iff_of_true rfl clears_nil

theorem scalar_agrees (key : String) (place : Location) (doc : Document) :
    doc.scalar?.isSome = true ↔ Clears (Schema.scalarDefects key place doc) := by
  unfold Schema.scalarDefects
  cases doc.scalar? with
  | none => simp [clears_singleton, SchemaFault.Harmless]
  | some value => exact iff_of_true rfl clears_nil

/-- What is no mapping has no entry to be read. -/
theorem get_of_no_entries (key : String) (doc : Document) (flat : doc.entries? = none) :
    doc.get? key = none := by
  unfold Document.get?
  rw [flat]
  rfl

theorem parameter_agrees : Agrees Schema.parameterDefects parameterOf := by
  intro doc place
  unfold Schema.parameterDefects parameterOf parameterText
  rw [converts_bind _ _ _ fun value => converts_bind _ _ _ fun typeName =>
    converts_bind _ _ True fun name => iff_of_true (converts_ok _) trivial]
  cases entries : doc.entries? with
  | none =>
      rw [clears_singleton, converts_required, get_of_no_entries "value" doc entries]
      exact iff_of_false (by simp) id
  | some found =>
      dsimp only
      rw [clears_append, clears_append, clears_append,
        required_key_agrees "param" "value" _ _ doc place (scalar_agrees "value" place),
        required_key_agrees "param" "type" _ _ doc place (text_agrees "type" place),
        required_key_agrees "param" "name" _ _ doc place (text_agrees "name" place)]
      have harmless := clears_unknown_keys Schema.parameterKeys found place
      constructor
      · intro converted
        rcases converted with ⟨value, typeName, name, -⟩
        exact ⟨⟨⟨typeName, name⟩, value⟩, harmless⟩
      · intro cleared
        rcases cleared with ⟨⟨⟨typeName, name⟩, value⟩, -⟩
        exact ⟨value, typeName, name, trivial⟩

theorem case_texts_agrees (key : String) (doc : Document) (place : Location) :
    Converts (caseTexts key doc place) ↔
      Clears (Schema.requiredKey "case" key (fun value => Schema.textsDefects key value place)
        doc place) := by
  unfold caseTexts Schema.requiredKey
  cases doc.get? key with
  | none =>
      rw [clears_singleton]
      refine iff_of_false ?_ id
      intro converted
      rcases converted with ⟨value, impossible⟩
      cases impossible
  | some value => exact sequence_agrees key (text_item_agrees key) value place

theorem case_agrees : Agrees Schema.caseDefects caseOf := by
  intro doc place
  unfold Schema.caseDefects caseOf
  rw [converts_bind _ _ _ fun guards => converts_bind _ _ True fun expected =>
    iff_of_true (converts_ok _) trivial]
  cases entries : doc.entries? with
  | none =>
      rw [clears_singleton, case_texts_agrees]
      unfold Schema.requiredKey
      rw [get_of_no_entries "where" doc entries]
      refine iff_of_false ?_ id
      intro accepted
      rcases accepted with ⟨cleared, -⟩
      exact (clears_singleton _ place).mp cleared
  | some found =>
      dsimp only
      rw [clears_append, clears_append, case_texts_agrees, case_texts_agrees, and_true]
      exact (and_iff_left (clears_unknown_keys Schema.caseKeys found place)).symm

/-! ## The whole document -/

theorem query_path_agrees (doc : Document) (place : Location) :
    Converts (required (.missing "query_path") place ((doc.get? "query_path").bind Document.text?)) ↔
      Clears (Schema.queryPathDefects doc place) := by
  rw [converts_required]
  unfold Schema.queryPathDefects
  cases doc.get? "query_path" with
  | none => simp [clears_singleton, SchemaFault.Harmless]
  | some value => exact text_agrees "query_path" place value

theorem of_document_converts (doc : Document) :
    Converts (ofDocument doc) ↔ Clears (Schema.defects doc) := by
  unfold ofDocument Schema.defects optionalTexts
  dsimp only
  cases entries : doc.entries? with
  | none =>
      rw [clears_singleton]
      refine iff_of_false ?_ id
      intro converted
      rcases converted with ⟨value, impossible⟩
      cases impossible
  | some found =>
      rw [converts_bind _ _ _ fun mapping => converts_bind _ _ _ fun queryPath =>
        converts_bind _ _ _ fun parameters => converts_bind _ _ _ fun columns =>
        converts_bind _ _ _ fun invariants => converts_bind _ _ True fun cases =>
        iff_of_true (converts_ok _) trivial]
      simp only [clears_append, query_path_agrees, Schema.textsDefects,
        optional_agrees "params" parameter_agrees,
        optional_agrees "columns" (text_item_agrees "columns"),
        optional_agrees "invariants" (text_item_agrees "invariants"),
        optional_agrees "cases" case_agrees]
      have mapped : Converts (required (.mistyped "top level object" .mapping)
          Location.root.value (some found)) := converts_ok found
      have unknown := clears_unknown_keys Schema.topKeys found Location.root
      have idle : Clears (if doc.hasKey "cases" || doc.hasKey "invariants" then []
          else [⟨.nothingToCheck, Location.root⟩]) := by
        split
        · exact clears_nil
        · exact (clears_singleton _ _).mpr trivial
      constructor
      · intro converted
        rcases converted with ⟨-, queryPath, parameters, columns, invariants, cases, -⟩
        exact ⟨⟨⟨⟨⟨⟨queryPath, parameters⟩, columns⟩, invariants⟩, cases⟩, idle⟩, unknown⟩
      · intro cleared
        rcases cleared with ⟨⟨⟨⟨⟨⟨queryPath, parameters⟩, columns⟩, invariants⟩, cases⟩, -⟩, -⟩
        exact ⟨mapped, queryPath, parameters, columns, invariants, cases, trivial⟩

end RawSpec

end QueryCheck

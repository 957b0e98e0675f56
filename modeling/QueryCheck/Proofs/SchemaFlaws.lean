import QueryCheck.Proofs.DocumentContent
import QueryCheck.Proofs.Places

/-!
# Flaws of a document

What a specification has to look like is a table: its mappings, the entries that each of them may and
must have, and the shape of every value. A flaw is a departure from the table at one place. Checking
a document finds exactly its flaws.
-/

namespace QueryCheck

set_option autoImplicit false

/-! ## What a specification looks like -/

/-- The mappings of a specification. -/
inductive Part where
  | whole
  | parameter
  | guardedCase

namespace Part

def name : Part → String
  | whole => "top level object"
  | parameter => "param"
  | guardedCase => "case"

/-- The keys that are known, with the shape of their values. -/
def fields : Part → List (String × Shape)
  | whole => [("query_path", .text), ("params", .sequence), ("columns", .sequence),
      ("cases", .sequence), ("invariants", .sequence)]
  | parameter => [("type", .text), ("name", .text), ("value", .scalar)]
  | guardedCase => [("where", .sequence), ("expected", .sequence)]

def required : Part → List String
  | whole => ["query_path"]
  | parameter => ["type", "name", "value"]
  | guardedCase => ["where", "expected"]

/-- The keys whose values are sequences of texts. -/
def texts : Part → List String
  | whole => ["columns", "invariants"]
  | parameter => []
  | guardedCase => ["where", "expected"]

def missing (part : Part) (key : String) : SchemaFault :=
  match part with
  | whole => .missing key
  | parameter => .missingIn "param" key
  | guardedCase => .missingIn "case" key

end Part

def Shape.Fits (shape : Shape) (doc : Document) : Prop :=
  match shape with
  | mapping => doc.entries?.isSome = true
  | sequence => doc.items?.isSome = true
  | text => doc.text?.isSome = true
  | scalar => doc.scalar?.isSome = true

/-- What is wrong, and the keys and element numbers that lead to it. -/
structure Flaw where
  place : List String
  fault : SchemaFault

/-- The flaw of a part, seen from above. -/
def Flaw.below (steps : List String) (flaw : Flaw) : Flaw :=
  ⟨steps ++ flaw.place, flaw.fault⟩

/-- What is wrong with what stands in the place of a mapping, with the place counted from there. -/
inductive PartFlaw (part : Part) (owner : Document) : Flaw → Prop where
  | flat (misfit : ¬Shape.mapping.Fits owner) :
      PartFlaw part owner ⟨[], .mistyped part.name .mapping⟩
  | missing {key : String} (mapping : Shape.mapping.Fits owner) (required : key ∈ part.required)
      (absent : owner.get? key = none) : PartFlaw part owner ⟨[], part.missing key⟩
  | mistyped {key : String} {shape : Shape} {value : Document} (field : (key, shape) ∈ part.fields)
      (present : owner.get? key = some value) (misfit : ¬shape.Fits value) :
      PartFlaw part owner ⟨[key], .mistyped key shape⟩
  | element {key : String} {items : List Document} {index : Nat} {item : Document}
      (texts : key ∈ part.texts) (present : owner.get? key = some (.sequence items))
      (placed : items[index]? = some item) (misfit : ¬Shape.text.Fits item) :
      PartFlaw part owner
        ⟨[key, Location.elementSegment index], .mistyped (Schema.elementOf key) .text⟩
  | unknown {entries : List (String × Document)} {key : String} {value : Document}
      (mapping : owner.entries? = some entries) (entry : (key, value) ∈ entries)
      (unknown : key ∉ part.fields.map Prod.fst) : PartFlaw part owner ⟨[key], .unknownKey key⟩

namespace Document

/-- Where a document has what should be the mappings of a specification. -/
inductive HasPart (doc : Document) : Part → List String → Document → Prop where
  | whole : HasPart doc .whole [] doc
  | parameter {items : List Document} {index : Nat} {item : Document}
      (listed : doc.get? "params" = some (.sequence items)) (placed : items[index]? = some item) :
      HasPart doc .parameter ["params", Location.elementSegment index] item
  | guardedCase {items : List Document} {index : Nat} {item : Document}
      (listed : doc.get? "cases" = some (.sequence items)) (placed : items[index]? = some item) :
      HasPart doc .guardedCase ["cases", Location.elementSegment index] item

inductive HasFlaw (doc : Document) : Flaw → Prop where
  | within {part : Part} {base : List String} {owner : Document} {flaw : Flaw}
      (place : doc.HasPart part base owner) (wrong : PartFlaw part owner flaw) :
      HasFlaw doc (flaw.below base)
  | nothingToCheck (mapping : Shape.mapping.Fits doc) (noCases : doc.get? "cases" = none)
      (noInvariants : doc.get? "invariants" = none) : HasFlaw doc ⟨[], .nothingToCheck⟩

end Document

/-- The end of the location of a fault. Among the values that are not what they should be, only a
parameter that is no mapping is given without a mark. -/
def SchemaFault.mark : SchemaFault → List String
  | .mistyped part .mapping => if part = "param" then [] else [Location.valueMark]
  | .mistyped _ _ => [Location.valueMark]
  | .unknownKey _ => [Location.keyMark]
  | _ => []

/-- The defect by which a flaw is reported, seen from a place in the document. -/
def Flaw.defectAt (place : Location) (flaw : Flaw) : SchemaDefect :=
  ⟨flaw.fault, ⟨place.segments ++ flaw.place ++ flaw.fault.mark⟩⟩

theorem Flaw.defect_at_inj {place : Location} {one other : Flaw}
    (same : one.defectAt place = other.defectAt place) : one = other := by
  obtain ⟨onePlace, fault⟩ := one
  obtain ⟨otherPlace, otherFault⟩ := other
  have faults : fault = otherFault := congrArg Located.fault same
  subst faults
  have segments := congrArg (fun defect => defect.location.segments) same
  simp only [Flaw.defectAt, List.append_cancel_right_eq, List.append_cancel_left_eq] at segments
  rw [segments]

/-- The key or the element that a flaw is about, seen from above. -/
def Flaw.entry (flaw : Flaw) : Option String :=
  match flaw.place, flaw.fault with
  | key :: _, _ => some key
  | [], .missing key => some key
  | [], .missingIn _ key => some key
  | [], _ => none

/-! ## What the checks find -/

namespace Schema

/-- The defects are those of the flaws, seen from a place, and none is found twice. -/
structure Detects (place : Location) (found : List SchemaDefect) (flawed : Flaw → Prop) : Prop where
  exact : ∀ defect, defect ∈ found ↔ ∃ flaw, flawed flaw ∧ defect = flaw.defectAt place
  once : found.Nodup

variable {place : Location} {doc : Document} {key : String} {first second : List SchemaDefect}
  {P Q : Flaw → Prop}

theorem Detects.congr (detects : Detects place first P) (same : ∀ flaw, Q flaw ↔ P flaw) :
    Detects place first Q where
  exact := by
    intro defect
    simp only [detects.exact defect, same]
  once := detects.once

theorem detects_nil (none : ∀ flaw, ¬P flaw) : Detects place [] P where
  exact := by simp [none]
  once := List.nodup_nil

theorem detects_one (flaw : Flaw) {defect : SchemaDefect} (same : flaw.defectAt place = defect) :
    Detects place [defect] (· = flaw) where
  exact := by simp [same]
  once := List.nodup_singleton defect

theorem Detects.append (one : Detects place first P) (other : Detects place second Q)
    (apart : ∀ flaw, P flaw → ¬Q flaw) :
    Detects place (first ++ second) (fun flaw => P flaw ∨ Q flaw) where
  exact := by
    intro defect
    rw [List.mem_append, one.exact defect, other.exact defect]
    simp only [or_and_right, exists_or]
  once := by
    refine List.nodup_append.mpr ⟨one.once, other.once, ?_⟩
    rintro defect inFirst _ inSecond rfl
    obtain ⟨flaw, flawed, rfl⟩ := (one.exact defect).mp inFirst
    obtain ⟨twin, other, same⟩ := (other.exact _).mp inSecond
    rw [Flaw.defect_at_inj same] at flawed
    exact apart twin flawed other

/-- Parts of a check that are about different entries. -/
theorem entries_detect {flawed : String → Flaw → Prop}
    (about : ∀ key flaw, flawed key flaw → flaw.entry = some key)
    (parts : List (String × List SchemaDefect)) (distinct : (parts.map Prod.fst).Nodup)
    (each : ∀ part ∈ parts, Detects place part.2 (flawed part.1)) :
    Detects place (parts.flatMap Prod.snd)
      (fun flaw => ∃ key ∈ parts.map Prod.fst, flawed key flaw) := by
  induction parts with
  | nil => exact detects_nil (by simp)
  | cons part rest induction =>
      rw [List.map_cons, List.nodup_cons] at distinct
      rw [List.forall_mem_cons] at each
      refine (each.1.append (induction distinct.2 each.2) ?_).congr (by simp)
      rintro flaw here ⟨key, member, there⟩
      have same := (about _ flaw here).symm.trans (about key flaw there)
      rw [Option.some.inj same] at distinct
      exact distinct.1 member

/-! ## Values -/

theorem text_detects (key : String) (doc : Document) :
    Detects place (textDefects key place doc)
      (fun flaw => ¬Shape.text.Fits doc ∧ flaw = ⟨[key], .mistyped key .text⟩) := by
  unfold textDefects Shape.Fits
  cases doc.text? with
  | none => exact (detects_one ⟨[key], .mistyped key .text⟩ rfl).congr (by simp)
  | some _ => exact detects_nil (by simp)

theorem scalar_detects (key : String) (doc : Document) :
    Detects place (scalarDefects key place doc)
      (fun flaw => ¬Shape.scalar.Fits doc ∧ flaw = ⟨[key], .mistyped key .scalar⟩) := by
  unfold scalarDefects Shape.Fits
  cases doc.scalar? with
  | none => exact (detects_one ⟨[key], .mistyped key .scalar⟩ rfl).congr (by simp)
  | some _ => exact detects_nil (by simp)

theorem text_element_detects (container : String) (doc : Document) (place : Location) :
    Detects place (textElement container doc place)
      (fun flaw => ¬Shape.text.Fits doc ∧ flaw = ⟨[], .mistyped (elementOf container) .text⟩) := by
  unfold textElement Shape.Fits
  cases doc.text? with
  | none =>
      have seen : Flaw.defectAt place ⟨[], .mistyped (elementOf container) .text⟩ =
          ⟨.mistyped (elementOf container) .text, place.value⟩ := by
        simp [Flaw.defectAt, SchemaFault.mark, Location.value, Location.child]
      exact (detects_one _ seen).congr (by simp)
  | some _ => exact detects_nil (by simp)

/-! ## Sequences -/

theorem Detects.below {step : String} (detects : Detects (place.child step) first P) :
    Detects place first (fun flaw => ∃ wrong, P wrong ∧ flaw = wrong.below [step]) where
  exact := by
    intro defect
    rw [detects.exact defect]
    have seen (flaw : Flaw) :
        (flaw.below [step]).defectAt place = flaw.defectAt (place.child step) := by
      simp [Flaw.below, Flaw.defectAt, Location.child]
    constructor
    · rintro ⟨flaw, wrong, rfl⟩
      exact ⟨_, ⟨flaw, wrong, rfl⟩, (seen flaw).symm⟩
    · rintro ⟨_, ⟨flaw, wrong, rfl⟩, rfl⟩
      exact ⟨flaw, wrong, seen flaw⟩
  once := detects.once

variable {check : Document → Location → List SchemaDefect} {Inner : Document → Flaw → Prop}

/-- The check of an element finds its flaws, in a document without repeated keys. -/
def DetectsInner (check : Document → Location → List SchemaDefect) (Inner : Document → Flaw → Prop) :
    Prop :=
  ∀ item place, item.DistinctKeys → Detects place (check item place) (Inner item)

theorem elements_detect (inner : DetectsInner check Inner) (start : Nat) (items : List Document)
    (distinct : ∀ item ∈ items, item.DistinctKeys) :
    Detects place (Location.collectElements check place start items) (fun flaw =>
      ∃ index item wrong, items[index]? = some item ∧ Inner item wrong ∧
        flaw = wrong.below [Location.elementSegment (start + index)]) := by
  induction items generalizing start with
  | nil => exact detects_nil (by simp)
  | cons head rest induction =>
      have number (count : Nat) : start + 1 + count = start + (count + 1) := by omega
      rw [List.forall_mem_cons] at distinct
      refine ((inner head (place.element start) distinct.1).below.append
        (induction (start + 1) distinct.2) ?_).congr ?_
      · rintro _ ⟨wrong, -, rfl⟩ ⟨index, item, other, -, -, same⟩
        have segments := (List.cons.inj (congrArg Flaw.place same)).1
        rw [Location.element_segment_inj] at segments
        omega
      · intro flaw
        constructor
        · rintro ⟨_ | index, item, wrong, placed, flawed, same⟩
          · cases placed
            exact .inl ⟨wrong, flawed, same⟩
          · exact .inr ⟨index, item, wrong, placed, flawed, number index ▸ same⟩
        · rintro (⟨wrong, flawed, same⟩ | ⟨index, item, wrong, placed, flawed, same⟩)
          · exact ⟨0, head, wrong, rfl, flawed, same⟩
          · exact ⟨index + 1, item, wrong, placed, flawed, number index ▸ same⟩

theorem sequence_detects (key : String) (inner : DetectsInner check Inner) :
    DetectsInner (sequenceDefects key check) (fun value flaw =>
      ¬Shape.sequence.Fits value ∧ flaw = ⟨[key], .mistyped key .sequence⟩ ∨
        ∃ items index item wrong, value = .sequence items ∧ items[index]? = some item ∧
          Inner item wrong ∧ flaw = wrong.below [key, Location.elementSegment index]) := by
  intro value place distinct
  unfold sequenceDefects Shape.Fits
  cases found : value.items? with
  | none =>
      have other (items : List Document) : value ≠ .sequence items := by
        intro same
        rw [same] at found
        cases found
      exact (detects_one ⟨[key], .mistyped key .sequence⟩ rfl).congr (by simp [other, found])
  | some items =>
      obtain rfl := (value.items_some items).mp found
      refine (elements_detect inner 0 items fun item => distinct.of_element).below.congr ?_
      intro flaw
      constructor
      · rintro (⟨misfit, -⟩ | ⟨_, index, item, wrong, same, placed, flawed, rfl⟩)
        · exact absurd rfl misfit
        · cases same
          exact ⟨_, ⟨index, item, wrong, placed, flawed, rfl⟩, by simp [Flaw.below]⟩
      · rintro ⟨_, ⟨index, item, wrong, placed, flawed, rfl⟩, rfl⟩
        exact .inr ⟨items, index, item, wrong, rfl, placed, flawed, by simp [Flaw.below]⟩

theorem texts_detects (key : String) :
    DetectsInner (textsDefects key) (fun value flaw =>
      ¬Shape.sequence.Fits value ∧ flaw = ⟨[key], .mistyped key .sequence⟩ ∨
        ∃ items index item, value = .sequence items ∧ items[index]? = some item ∧
          ¬Shape.text.Fits item ∧
          flaw = ⟨[key, Location.elementSegment index], .mistyped (elementOf key) .text⟩) := by
  intro value place distinct
  refine (sequence_detects key (fun item place _ => text_element_detects key item place) value place
    distinct).congr ?_
  intro flaw
  refine or_congr_right ?_
  constructor
  · rintro ⟨items, index, item, same, placed, misfit, rfl⟩
    exact ⟨items, index, item, _, same, placed, ⟨misfit, rfl⟩, rfl⟩
  · rintro ⟨items, index, item, _, same, placed, ⟨misfit, rfl⟩, rfl⟩
    exact ⟨items, index, item, same, placed, misfit, rfl⟩

/-! ## Entries -/

/-- What is wrong with the value of a key. -/
def ValueFlaw (part : Part) (key : String) (value : Document) (flaw : Flaw) : Prop :=
  (∃ shape, (key, shape) ∈ part.fields ∧ ¬shape.Fits value ∧ flaw = ⟨[key], .mistyped key shape⟩) ∨
    ∃ items index item, key ∈ part.texts ∧ value = .sequence items ∧ items[index]? = some item ∧
      ¬Shape.text.Fits item ∧
      flaw = ⟨[key, Location.elementSegment index], .mistyped (elementOf key) .text⟩

/-- What is wrong with a known key of a mapping. -/
def KeyFlaw (part : Part) (doc : Document) (key : String) (flaw : Flaw) : Prop :=
  doc.get? key = none ∧ key ∈ part.required ∧ flaw = ⟨[], part.missing key⟩ ∨
    ∃ value, doc.get? key = some value ∧ ValueFlaw part key value flaw

theorem key_flaw_entry (part : Part) (doc : Document) (key : String) (flaw : Flaw)
    (wrong : KeyFlaw part doc key flaw) : flaw.entry = some key := by
  rcases wrong with ⟨-, -, rfl⟩ | ⟨value, -, ⟨shape, -, -, rfl⟩ | ⟨items, index, item, -, -, -, -, rfl⟩⟩
  · cases part <;> rfl
  · rfl
  · rfl

variable {part : Part} {checkValue : Document → List SchemaDefect}

theorem text_value_detects (field : ∀ shape, (key, shape) ∈ part.fields ↔ shape = .text)
    (single : key ∉ part.texts) (value : Document) :
    Detects place (textDefects key place value) (ValueFlaw part key value) :=
  (text_detects key value).congr (by simp [ValueFlaw, field, single])

theorem scalar_value_detects (field : ∀ shape, (key, shape) ∈ part.fields ↔ shape = .scalar)
    (single : key ∉ part.texts) (value : Document) :
    Detects place (scalarDefects key place value) (ValueFlaw part key value) :=
  (scalar_detects key value).congr (by simp [ValueFlaw, field, single])

theorem texts_value_detects (field : ∀ shape, (key, shape) ∈ part.fields ↔ shape = .sequence)
    (several : key ∈ part.texts) : DetectsInner (textsDefects key) (ValueFlaw part key) := by
  intro value place distinct
  exact (texts_detects key value place distinct).congr (by simp [ValueFlaw, field, several])

theorem required_detects {name : String} (fault : part.missing key = .missingIn name key)
    (required : key ∈ part.required)
    (value : ∀ value, doc.get? key = some value →
      Detects place (checkValue value) (ValueFlaw part key value)) :
    Detects place (requiredKey name key checkValue doc place) (KeyFlaw part doc key) := by
  unfold requiredKey KeyFlaw
  cases found : doc.get? key with
  | none =>
      have seen : Flaw.defectAt place ⟨[], part.missing key⟩ = ⟨.missingIn name key, place⟩ := by
        simp [Flaw.defectAt, fault, SchemaFault.mark]
      exact (detects_one _ seen).congr (by simp [required])
  | some held => exact (value held found).congr (by simp)

theorem optional_detects (optional : key ∉ part.required)
    (value : ∀ value, doc.get? key = some value →
      Detects place (checkValue value) (ValueFlaw part key value)) :
    Detects place (optionalKey key checkValue doc) (KeyFlaw part doc key) := by
  unfold optionalKey KeyFlaw
  cases found : doc.get? key with
  | none => exact detects_nil (by simp [optional])
  | some held => exact (value held found).congr (by simp)

theorem unknown_detects (known : List String) (entries : List (String × Document))
    (distinct : (Fields.names entries).Nodup) :
    Detects place (unknownKeys known entries place) (fun flaw =>
      ∃ key value, (key, value) ∈ entries ∧ key ∉ known ∧ flaw = ⟨[key], .unknownKey key⟩) where
  exact := by
    intro defect
    unfold unknownKeys
    rw [List.mem_map]
    have seen (key : String) : Flaw.defectAt place ⟨[key], .unknownKey key⟩ =
        ⟨.unknownKey key, place.keyOf key⟩ := rfl
    constructor
    · rintro ⟨⟨key, value⟩, member, rfl⟩
      obtain ⟨entry, unknown⟩ := List.mem_filter.mp member
      exact ⟨_, ⟨key, value, entry, by simpa using unknown, rfl⟩, (seen key).symm⟩
    · rintro ⟨_, ⟨key, value, entry, unknown, rfl⟩, rfl⟩
      exact ⟨(key, value), List.mem_filter.mpr ⟨entry, by simpa using unknown⟩, seen key⟩
  once := by
    have names : ((entries.filter fun entry => !known.contains entry.1).map Prod.fst).Nodup :=
      distinct.sublist (List.filter_sublist.map Prod.fst)
    refine List.Nodup.of_map (fun defect => defect.fault) ?_
    have different : Function.Injective SchemaFault.unknownKey := by
      intro one other same
      cases same
      rfl
    simpa [unknownKeys, Function.comp_def] using names.map different

/-! ## Mappings -/

theorem fits_mapping_of_get {value : Document} (present : doc.get? key = some value) :
    Shape.mapping.Fits doc := by
  obtain ⟨entries, mapping⟩ := doc.entries_of_get value key present
  simp [Shape.Fits, mapping]

theorem part_flaw_flat (part : Part) (flat : doc.entries? = none) (flaw : Flaw) :
    PartFlaw part doc flaw ↔ flaw = ⟨[], .mistyped part.name .mapping⟩ := by
  have misfit : ¬Shape.mapping.Fits doc := by simp [Shape.Fits, flat]
  constructor
  · intro wrong
    cases wrong with
    | flat => rfl
    | missing mapping => exact absurd mapping misfit
    | mistyped _ present => exact absurd (fits_mapping_of_get present) misfit
    | element _ present => exact absurd (fits_mapping_of_get present) misfit
    | unknown mapping => simp [flat] at mapping
  · rintro rfl
    exact .flat misfit

theorem required_known (part : Part) (required : key ∈ part.required) :
    key ∈ part.fields.map Prod.fst := by
  cases part <;> simp_all [Part.required, Part.fields]

theorem texts_known (part : Part) (texts : key ∈ part.texts) : key ∈ part.fields.map Prod.fst := by
  cases part <;> simp [Part.texts, Part.fields] at texts ⊢
  · tauto
  · exact texts

theorem part_flaw_mapping (part : Part) {entries : List (String × Document)}
    (mapping : doc.entries? = some entries) (flaw : Flaw) :
    PartFlaw part doc flaw ↔ (∃ key ∈ part.fields.map Prod.fst, KeyFlaw part doc key flaw) ∨
      ∃ key value, (key, value) ∈ entries ∧ key ∉ part.fields.map Prod.fst ∧
        flaw = ⟨[key], .unknownKey key⟩ := by
  have fits : Shape.mapping.Fits doc := by simp [Shape.Fits, mapping]
  constructor
  · intro wrong
    cases wrong with
    | flat misfit => exact absurd fits misfit
    | missing _ required absent =>
        exact .inl ⟨_, required_known part required, .inl ⟨absent, required, rfl⟩⟩
    | mistyped field present misfit =>
        exact .inl ⟨_, List.mem_map_of_mem field, .inr ⟨_, present, .inl ⟨_, field, misfit, rfl⟩⟩⟩
    | element texts present placed misfit =>
        exact .inl ⟨_, texts_known part texts,
          .inr ⟨_, present, .inr ⟨_, _, _, texts, rfl, placed, misfit, rfl⟩⟩⟩
    | unknown same entry unknown =>
        rw [mapping] at same
        cases same
        exact .inr ⟨_, _, entry, unknown, rfl⟩
  · rintro (⟨key, -, ⟨absent, required, rfl⟩ | ⟨value, present, ⟨shape, field, misfit, rfl⟩ |
      ⟨items, index, item, texts, rfl, placed, misfit, rfl⟩⟩⟩ | ⟨key, value, entry, unknown, rfl⟩)
    · exact .missing fits required absent
    · exact .mistyped field present misfit
    · exact .element texts present placed misfit
    · exact .unknown mapping entry unknown

/-- The checks of all known keys, and behind them the unknown keys. -/
theorem keys_detect {flawed : String → Flaw → Prop} {entries : List (String × Document)}
    (about : ∀ key flaw, flawed key flaw → flaw.entry = some key)
    (names : (Fields.names entries).Nodup) (parts : List (String × List SchemaDefect))
    (distinct : (parts.map Prod.fst).Nodup)
    (each : ∀ part ∈ parts, Detects place part.2 (flawed part.1)) (known : List String)
    (same : ∀ key, key ∈ known ↔ key ∈ parts.map Prod.fst) :
    Detects place (parts.flatMap Prod.snd ++ unknownKeys known entries place) (fun flaw =>
      (∃ key ∈ parts.map Prod.fst, flawed key flaw) ∨
        ∃ key value, (key, value) ∈ entries ∧ key ∉ parts.map Prod.fst ∧
          flaw = ⟨[key], .unknownKey key⟩) := by
  simp only [← same]
  refine ((entries_detect about parts distinct each).congr (by simp only [same]; simp)).append
    (unknown_detects known entries names) ?_
  rintro _ ⟨key, member, here⟩ ⟨other, value, -, unknown, rfl⟩
  cases about key _ here
  exact unknown member

theorem parameter_detects : DetectsInner parameterDefects (PartFlaw .parameter) := by
  intro doc place distinct
  unfold parameterDefects
  split
  · rename_i flat
    have seen : Flaw.defectAt place ⟨[], .mistyped "param" .mapping⟩ =
        ⟨.mistyped "param" .mapping, place⟩ := by
      simp [Flaw.defectAt, SchemaFault.mark]
    exact (detects_one _ seen).congr (part_flaw_flat .parameter flat)
  · rename_i entries mapping
    have type : Detects place (requiredKey "param" "type" (textDefects "type" place) doc place)
        (KeyFlaw .parameter doc "type") :=
      required_detects rfl (by simp [Part.required]) fun value _ =>
        text_value_detects (by simp [Part.fields]) (by simp [Part.texts]) value
    have name : Detects place (requiredKey "param" "name" (textDefects "name" place) doc place)
        (KeyFlaw .parameter doc "name") :=
      required_detects rfl (by simp [Part.required]) fun value _ =>
        text_value_detects (by simp [Part.fields]) (by simp [Part.texts]) value
    have value : Detects place (requiredKey "param" "value" (scalarDefects "value" place) doc place)
        (KeyFlaw .parameter doc "value") :=
      required_detects rfl (by simp [Part.required]) fun value _ =>
        scalar_value_detects (by simp [Part.fields]) (by simp [Part.texts]) value
    have found := keys_detect (key_flaw_entry .parameter doc) (distinct.names mapping)
      [("type", _), ("name", _), ("value", _)] (by simp) (by simpa using ⟨type, name, value⟩)
      parameterKeys (by simp [parameterKeys])
    simp only [List.flatMap_cons, List.flatMap_nil, List.append_nil, ← List.append_assoc] at found
    exact found.congr (part_flaw_mapping .parameter mapping)

theorem case_detects : DetectsInner caseDefects (PartFlaw .guardedCase) := by
  intro doc place distinct
  unfold caseDefects
  split
  · rename_i flat
    have seen : Flaw.defectAt place ⟨[], .mistyped "case" .mapping⟩ =
        ⟨.mistyped "case" .mapping, place.value⟩ := by
      simp [Flaw.defectAt, SchemaFault.mark, Location.value, Location.child]
    exact (detects_one _ seen).congr (part_flaw_flat .guardedCase flat)
  · rename_i entries mapping
    have texts (key : String) (known : key ∈ Part.guardedCase.required) :
        Detects place (requiredKey "case" key (fun value => textsDefects key value place) doc place)
          (KeyFlaw .guardedCase doc key) := by
      refine required_detects rfl known fun value held =>
        texts_value_detects ?_ known value place (distinct.of_get held)
      simp only [Part.required, List.mem_cons, List.not_mem_nil, or_false] at known
      rcases known with rfl | rfl <;> simp [Part.fields]
    have found := keys_detect (key_flaw_entry .guardedCase doc) (distinct.names mapping)
      [("where", _), ("expected", _)] (by simp)
      (by simpa using ⟨texts "where" (by simp [Part.required]),
        texts "expected" (by simp [Part.required])⟩)
      caseKeys (by simp [caseKeys])
    simp only [List.flatMap_cons, List.flatMap_nil, List.append_nil] at found
    exact found.congr (part_flaw_mapping .guardedCase mapping)

/-! ## The whole document -/

/-- A flaw of an element of the sequence under a key. -/
def ElementFlaw (part : Part) (doc : Document) (key : String) (flaw : Flaw) : Prop :=
  ∃ items index item wrong, doc.get? key = some (.sequence items) ∧ items[index]? = some item ∧
    PartFlaw part item wrong ∧ flaw = wrong.below [key, Location.elementSegment index]

/-- A flaw of a known key of the whole document, or of something below it. -/
def TopFlaw (doc : Document) (key : String) (flaw : Flaw) : Prop :=
  KeyFlaw .whole doc key flaw ∨ key = "params" ∧ ElementFlaw .parameter doc key flaw ∨
    key = "cases" ∧ ElementFlaw .guardedCase doc key flaw

theorem top_flaw_entry (doc : Document) (key : String) (flaw : Flaw)
    (wrong : TopFlaw doc key flaw) : flaw.entry = some key := by
  rcases wrong with wrong | ⟨-, _, _, _, _, -, -, -, rfl⟩ | ⟨-, _, _, _, _, -, -, -, rfl⟩
  · exact key_flaw_entry .whole doc key flaw wrong
  · rfl
  · rfl

theorem has_flaw_iff (doc : Document) (flaw : Flaw) :
    doc.HasFlaw flaw ↔ PartFlaw .whole doc flaw ∨ ElementFlaw .parameter doc "params" flaw ∨
      ElementFlaw .guardedCase doc "cases" flaw ∨
      Shape.mapping.Fits doc ∧ doc.get? "cases" = none ∧ doc.get? "invariants" = none ∧
        flaw = ⟨[], .nothingToCheck⟩ := by
  constructor
  · intro has
    cases has with
    | within place wrong =>
        cases place with
        | whole => exact .inl wrong
        | parameter listed placed => exact .inr (.inl ⟨_, _, _, _, listed, placed, wrong, rfl⟩)
        | guardedCase listed placed =>
            exact .inr (.inr (.inl ⟨_, _, _, _, listed, placed, wrong, rfl⟩))
    | nothingToCheck mapping noCases noInvariants =>
        exact .inr (.inr (.inr ⟨mapping, noCases, noInvariants, rfl⟩))
  · rintro (wrong | ⟨items, index, item, flaw, listed, placed, wrong, rfl⟩ |
      ⟨items, index, item, flaw, listed, placed, wrong, rfl⟩ | ⟨mapping, noCases, noInvariants, rfl⟩)
    · exact .within .whole wrong
    · exact .within (.parameter listed placed) wrong
    · exact .within (.guardedCase listed placed) wrong
    · exact .nothingToCheck mapping noCases noInvariants

theorem query_path_detects (doc : Document) (place : Location) :
    Detects place (queryPathDefects doc place) (TopFlaw doc "query_path") := by
  unfold queryPathDefects TopFlaw KeyFlaw
  cases doc.get? "query_path" with
  | none =>
      have seen : Flaw.defectAt place ⟨[], .missing "query_path"⟩ = ⟨.missing "query_path", place⟩ := by
        simp [Flaw.defectAt, SchemaFault.mark]
      exact (detects_one _ seen).congr (by simp [Part.required, Part.missing])
  | some value =>
      have found : Detects place (textDefects "query_path" place value)
          (ValueFlaw .whole "query_path" value) :=
        text_value_detects (by simp [Part.fields]) (by simp [Part.texts]) value
      exact found.congr (by simp)

theorem optional_texts_detects (key : String) (texts : key ∈ Part.whole.texts)
    (distinct : doc.DistinctKeys) (place : Location) :
    Detects place (optionalKey key (fun value => textsDefects key value place) doc)
      (TopFlaw doc key) := by
  have found (optional : key ∉ Part.whole.required)
      (field : ∀ shape, (key, shape) ∈ Part.whole.fields ↔ shape = .sequence) :
      Detects place (optionalKey key (fun value => textsDefects key value place) doc)
        (KeyFlaw .whole doc key) :=
    optional_detects optional fun value held =>
      texts_value_detects field texts value place (distinct.of_get held)
  simp only [Part.texts, List.mem_cons, List.not_mem_nil, or_false] at texts
  rcases texts with rfl | rfl <;>
    exact (found (by simp [Part.required]) (by simp [Part.fields])).congr (by simp [TopFlaw])

theorem optional_parts_detect {part : Part} (key : String)
    (keyed : ∀ flaw, TopFlaw doc key flaw ↔ KeyFlaw .whole doc key flaw ∨ ElementFlaw part doc key flaw)
    (sequence : ∀ value flaw, ValueFlaw .whole key value flaw ↔
      ¬Shape.sequence.Fits value ∧ flaw = ⟨[key], .mistyped key .sequence⟩)
    (optional : key ∉ Part.whole.required) (inner : DetectsInner check (PartFlaw part))
    (distinct : doc.DistinctKeys) (place : Location) :
    Detects place (optionalKey key (fun value => sequenceDefects key check value place) doc)
      (TopFlaw doc key) := by
  unfold optionalKey
  cases held : doc.get? key with
  | none => exact detects_nil (by simp [keyed, KeyFlaw, ElementFlaw, held, optional])
  | some value =>
      refine (sequence_detects key inner value place (distinct.of_get held)).congr ?_
      simp [keyed, KeyFlaw, ElementFlaw, held, sequence]

theorem nothing_to_check_detects (doc : Document) (mapping : Shape.mapping.Fits doc)
    (place : Location) :
    Detects place (if doc.hasKey "cases" || doc.hasKey "invariants" then []
        else [⟨.nothingToCheck, place⟩])
      (fun flaw => Shape.mapping.Fits doc ∧ doc.get? "cases" = none ∧
        doc.get? "invariants" = none ∧ flaw = ⟨[], .nothingToCheck⟩) := by
  unfold Document.hasKey
  split
  · rename_i given
    refine detects_nil ?_
    rintro flaw ⟨-, noCases, noInvariants, -⟩
    simp [noCases, noInvariants] at given
  · rename_i idle
    have seen : Flaw.defectAt place ⟨[], .nothingToCheck⟩ = ⟨.nothingToCheck, place⟩ := by
      simp [Flaw.defectAt, SchemaFault.mark]
    have absent : doc.get? "cases" = none ∧ doc.get? "invariants" = none := by simpa using idle
    exact (detects_one _ seen).congr (by simp [mapping, absent])

theorem top_keys_detect (distinct : doc.DistinctKeys) (place : Location) :
    Detects place (queryPathDefects doc place ++
        optionalKey "params" (fun value => sequenceDefects "params" parameterDefects value place) doc ++
        optionalKey "columns" (fun value => textsDefects "columns" value place) doc ++
        optionalKey "invariants" (fun value => textsDefects "invariants" value place) doc ++
        optionalKey "cases" (fun value => sequenceDefects "cases" caseDefects value place) doc)
      (fun flaw => ∃ key ∈ Part.whole.fields.map Prod.fst, TopFlaw doc key flaw) := by
  have queryPath := query_path_detects doc place
  have parameters : Detects place (optionalKey "params" (fun value =>
      sequenceDefects "params" parameterDefects value place) doc) (TopFlaw doc "params") :=
    optional_parts_detect "params" (by simp [TopFlaw])
      (by simp [ValueFlaw, Part.fields, Part.texts]) (by simp [Part.required]) parameter_detects
      distinct place
  have columns := optional_texts_detects "columns" (by simp [Part.texts]) distinct place
  have invariants := optional_texts_detects "invariants" (by simp [Part.texts]) distinct place
  have cases : Detects place (optionalKey "cases" (fun value =>
      sequenceDefects "cases" caseDefects value place) doc) (TopFlaw doc "cases") :=
    optional_parts_detect "cases" (by simp [TopFlaw])
      (by simp [ValueFlaw, Part.fields, Part.texts]) (by simp [Part.required]) case_detects
      distinct place
  have found := entries_detect (top_flaw_entry doc)
    [("query_path", _), ("params", _), ("columns", _), ("invariants", _), ("cases", _)] (by simp)
    (by simpa using ⟨queryPath, parameters, columns, invariants, cases⟩)
  simp only [List.flatMap_cons, List.flatMap_nil, List.append_nil, ← List.append_assoc] at found
  refine found.congr ?_
  intro flaw
  simp [Part.fields, or_comm]

/-- Checking a document finds exactly its flaws, each of them once. -/
theorem defects_detect (distinct : doc.DistinctKeys) :
    Detects .root (defects doc) doc.HasFlaw := by
  unfold defects
  dsimp only
  split
  · rename_i flat
    have seen : Flaw.defectAt .root ⟨[], .mistyped "top level object" .mapping⟩ =
        ⟨.mistyped "top level object" .mapping, Location.root.value⟩ := by
      simp [Flaw.defectAt, SchemaFault.mark, Location.value, Location.child]
    refine (detects_one _ seen).congr ?_
    intro flaw
    have empty (key : String) : doc.get? key = none := RawSpec.get_of_no_entries key doc flat
    rw [has_flaw_iff, part_flaw_flat .whole flat]
    simp [ElementFlaw, empty, Shape.Fits, flat, Part.name]
  · rename_i entries mapping
    have fits : Shape.mapping.Fits doc := by simp [Shape.Fits, mapping]
    refine (((top_keys_detect distinct .root).append (nothing_to_check_detects doc fits .root) ?_).append
      (unknown_detects topKeys entries (distinct.names mapping)) ?_).congr ?_
    · rintro _ ⟨key, -, here⟩ ⟨-, -, -, rfl⟩
      cases top_flaw_entry doc key _ here
    · rintro _ (⟨key, member, here⟩ | ⟨-, -, -, same⟩) ⟨other, value, -, unknown, rfl⟩
      · cases top_flaw_entry doc key _ here
        exact unknown member
      · cases same
    · intro flaw
      rw [has_flaw_iff, part_flaw_mapping .whole mapping]
      have known : Part.whole.fields.map Prod.fst = topKeys := rfl
      rw [known]
      generalize (∃ key value, (key, value) ∈ entries ∧ key ∉ topKeys ∧
        flaw = ⟨[key], .unknownKey key⟩) = unknown
      simp only [topKeys, TopFlaw, List.mem_cons, List.not_mem_nil, or_false, exists_eq_or_imp,
        exists_eq_left, String.reduceEq, true_and, false_and, or_self, false_or]
      tauto

end Schema

end QueryCheck

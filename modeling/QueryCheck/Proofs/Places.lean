import Mathlib.Data.List.Nodup
import QueryCheck.Document
import QueryCheck.Location
import QueryCheck.Proofs.Number.Digits

/-!
# Places in a document

The segments of a location, read as steps down a document: a key of a mapping, or the number of an
element behind `#`. A mark at the end is no step.
-/

namespace QueryCheck

set_option autoImplicit false

namespace Location

def elementNumber? (segment : String) : Option Nat :=
  match segment.toList with
  | '#' :: digits => readNat digits
  | _ => none

theorem element_number (index : Nat) : elementNumber? (elementSegment index) = some index := by
  simp [elementNumber?, elementSegment, read_nat_text]

theorem element_segment_inj {left right : Nat} :
    elementSegment left = elementSegment right ↔ left = right := by
  constructor
  · intro same
    have numbers := element_number left
    rw [same, element_number right] at numbers
    exact (Option.some.inj numbers).symm
  · rintro rfl
    rfl

def isMark (segment : String) : Bool :=
  segment == valueMark || segment == keyMark

theorem element_not_mark (index : Nat) : isMark (elementSegment index) = false := by
  have number := element_number index
  rw [isMark, Bool.or_eq_false_iff, beq_eq_false_iff_ne, beq_eq_false_iff_ne]
  constructor <;>
    · intro same
      rw [same] at number
      cases number

/-- The segments without a mark at their end. -/
def steps (place : Location) : List String :=
  match place.segments.getLast? with
  | some last => if isMark last then place.segments.dropLast else place.segments
  | none => []

theorem steps_of_mark (segments : List String) (mark : String) (marked : isMark mark = true) :
    steps ⟨segments ++ [mark]⟩ = segments := by
  simp [steps, marked]

theorem steps_of_element (segments : List String) (index : Nat) :
    steps ⟨segments ++ [elementSegment index]⟩ = segments ++ [elementSegment index] := by
  simp [steps, element_not_mark]

end Location

namespace Fields

variable {α : Type} {key : String} {value : α} {fields : Fields α}

theorem mem_of_get (found : fields.get? key = some value) : (key, value) ∈ fields := by
  induction fields with
  | nil => cases found
  | cons field rest induction =>
      rw [get?] at found
      split at found
      · rename_i same
        cases found
        simp [← same]
      · exact List.mem_cons_of_mem _ (induction found)

theorem get_of_mem (distinct : fields.names.Nodup) (member : (key, value) ∈ fields) :
    fields.get? key = some value := by
  induction fields with
  | nil => cases member
  | cons field rest induction =>
      obtain ⟨fresh, distinct⟩ := List.nodup_cons.mp distinct
      rw [get?]
      rcases List.mem_cons.mp member with rfl | member
      · exact if_pos rfl
      · have other : field.1 ≠ key := by
          intro same
          exact fresh (List.mem_map.mpr ⟨_, member, same.symm⟩)
        rw [if_neg other, induction distinct member]

end Fields

namespace Document

/-- No mapping in the document repeats a key. -/
inductive DistinctKeys : Document → Prop where
  | leaf {doc : Document} (flat : doc.entries? = none) (plain : doc.items? = none) : DistinctKeys doc
  | sequence {items : List Document} (each : ∀ item ∈ items, DistinctKeys item) :
      DistinctKeys (.sequence items)
  | mapping {entries : List (String × Document)} (distinct : (Fields.names entries).Nodup)
      (each : ∀ entry ∈ entries, DistinctKeys entry.2) : DistinctKeys (.mapping entries)

theorem DistinctKeys.names {doc : Document} {entries : List (String × Document)}
    (distinct : doc.DistinctKeys) (mapping : doc.entries? = some entries) :
    (Fields.names entries).Nodup := by
  cases distinct with
  | leaf flat => simp [flat] at mapping
  | sequence => cases mapping
  | mapping distinct =>
      cases mapping
      exact distinct

theorem DistinctKeys.of_get {doc value : Document} {key : String} (distinct : doc.DistinctKeys)
    (found : doc.get? key = some value) : value.DistinctKeys := by
  cases distinct with
  | leaf flat => simp [get?, flat] at found
  | sequence => cases found
  | mapping _ each => exact each (key, value) (Fields.mem_of_get found)

theorem DistinctKeys.of_element {items : List Document} {item : Document}
    (distinct : (Document.sequence items).DistinctKeys) (member : item ∈ items) :
    item.DistinctKeys := by
  cases distinct with
  | leaf _ plain => cases plain
  | sequence each => exact each item member

/-! ## Following segments -/

def step? (segment : String) : Document → Option Document
  | mapping entries => Fields.get? segment entries
  | sequence items => (Location.elementNumber? segment).bind (items[·]?)
  | _ => none

/-- What the segments lead to, if they lead anywhere. -/
def follow : List String → Document → Option Document
  | [], doc => some doc
  | segment :: rest, doc => (doc.step? segment).bind (follow rest)

theorem follow_append (first second : List String) (doc : Document) :
    doc.follow (first ++ second) = (doc.follow first).bind (follow second) := by
  induction first generalizing doc with
  | nil => rfl
  | cons segment rest induction =>
      simp only [List.cons_append, follow, Option.bind_assoc]
      congr 1
      funext inner
      exact induction inner

theorem step_of_get {doc value : Document} {key : String} (found : doc.get? key = some value) :
    doc.step? key = some value := by
  cases doc <;> first | exact found | cases found

theorem step_of_element {items : List Document} {item : Document} {index : Nat}
    (placed : items[index]? = some item) :
    (Document.sequence items).step? (Location.elementSegment index) = some item := by
  simp [step?, Location.element_number, placed]

end Document

end QueryCheck

import Mathlib.Data.Set.Function
import QueryCheck.Proofs.SchemaFlaws

/-!
# Errors and flaws

The errors of a document are in one-to-one correspondence with its flaws: messages and locations tell
the flaws apart. Followed from the top of the document, a location leads to what its error is about.
-/

namespace QueryCheck

set_option autoImplicit false

def Flaw.error (flaw : Flaw) : SpecError :=
  (flaw.defectAt .root).toError

/-! ## Messages -/

/-- The faults that a mapping of a specification may have, unknown keys apart. -/
def Part.faults (part : Part) : List SchemaFault :=
  .mistyped part.name .mapping :: part.required.map part.missing ++
    part.fields.map (fun field => .mistyped field.1 field.2) ++
    part.texts.map (fun key => .mistyped (Schema.elementOf key) .text)

def fixedFaults : List SchemaFault :=
  .nothingToCheck :: [Part.whole, .parameter, .guardedCase].flatMap Part.faults

theorem part_flaw_fault {part : Part} {owner : Document} {flaw : Flaw}
    (wrong : PartFlaw part owner flaw) :
    flaw.fault ∈ part.faults ∨ ∃ key, flaw.fault = .unknownKey key := by
  unfold Part.faults
  simp only [List.mem_append, List.mem_cons, List.mem_map]
  cases wrong with
  | flat => exact .inl (.inl (.inl (.inl rfl)))
  | missing _ required => exact .inl (.inl (.inl (.inr ⟨_, required, rfl⟩)))
  | mistyped field => exact .inl (.inl (.inr ⟨_, field, rfl⟩))
  | element texts => exact .inl (.inr ⟨_, texts, rfl⟩)
  | unknown => exact .inr ⟨_, rfl⟩

theorem has_flaw_fault {doc : Document} {flaw : Flaw} (has : doc.HasFlaw flaw) :
    flaw.fault ∈ fixedFaults ∨ ∃ key, flaw.fault = .unknownKey key := by
  cases has with
  | within place wrong =>
      refine (part_flaw_fault wrong).imp_left fun member => ?_
      refine List.mem_cons_of_mem _ (List.mem_flatMap.mpr ⟨_, ?_, member⟩)
      cases place <;> simp
  | nothingToCheck => exact .inl List.mem_cons_self

theorem fixed_messages_distinct : (fixedFaults.map SchemaFault.message).Nodup := by
  decide +kernel

theorem fixed_message_start : ∀ fault ∈ fixedFaults, fault.message.toList.head? ≠ some '\'' := by
  decide +kernel

theorem unknown_message_start (key : String) :
    (SchemaFault.unknownKey key).message.toList.head? = some '\'' := by
  simp [SchemaFault.message]

theorem unknown_message_inj {one other : String}
    (same : (SchemaFault.unknownKey one).message = (SchemaFault.unknownKey other).message) :
    one = other := by
  have letters := congrArg String.toList same
  simp only [SchemaFault.message, String.toList_append, List.append_cancel_right_eq,
    List.append_cancel_left_eq] at letters
  exact String.toList_inj.mp letters

/-- The message of a flaw names its fault. -/
theorem message_inj {doc : Document} {one other : Flaw} (hasOne : doc.HasFlaw one)
    (hasOther : doc.HasFlaw other) (same : one.fault.message = other.fault.message) :
    one.fault = other.fault := by
  rcases has_flaw_fault hasOne with fixed | ⟨key, unknown⟩
  · rcases has_flaw_fault hasOther with otherFixed | ⟨key, unknown⟩
    · exact List.inj_on_of_nodup_map fixed_messages_distinct fixed otherFixed same
    · have start := fixed_message_start one.fault fixed
      rw [same, unknown] at start
      exact absurd (unknown_message_start key) start
  · rcases has_flaw_fault hasOther with fixed | ⟨otherKey, otherUnknown⟩
    · have start := fixed_message_start other.fault fixed
      rw [← same, unknown] at start
      exact absurd (unknown_message_start key) start
    · rw [unknown, otherUnknown] at same ⊢
      rw [unknown_message_inj same]

theorem error_inj {doc : Document} {one other : Flaw} (hasOne : doc.HasFlaw one)
    (hasOther : doc.HasFlaw other) (same : one.error = other.error) : one = other := by
  have faults : one.fault = other.fault :=
    message_inj hasOne hasOther (congrArg SpecError.message same)
  have places : (one.defectAt .root).location = (other.defectAt .root).location :=
    Option.some.inj (congrArg SpecError.location same)
  have defects := congr (congrArg Located.mk faults) places
  exact Flaw.defect_at_inj (show one.defectAt .root = other.defectAt .root from defects)

/-! ## Locations -/

namespace Document

/-- Steps that lead to what a fault is about: the mapping without the key or keys, the value that has
not the shape, or the entry of the unknown key. -/
def Shows (doc : Document) (steps : List String) : SchemaFault → Prop
  | .missing key => ∃ owner, doc.follow steps = some owner ∧ Shape.mapping.Fits owner ∧
      owner.get? key = none
  | .missingIn _ key => ∃ owner, doc.follow steps = some owner ∧ Shape.mapping.Fits owner ∧
      owner.get? key = none
  | .nothingToCheck => ∃ owner, doc.follow steps = some owner ∧ Shape.mapping.Fits owner ∧
      owner.get? "cases" = none ∧ owner.get? "invariants" = none
  | .mistyped _ shape => ∃ value, doc.follow steps = some value ∧ ¬shape.Fits value
  | .unknownKey key => ∃ above owner value, steps = above ++ [key] ∧
      doc.follow above = some owner ∧ owner.get? key = some value ∧ doc.follow steps = some value
  | .notSequence => False

theorem shows_below {doc owner : Document} {base steps : List String} {fault : SchemaFault}
    (leads : doc.follow base = some owner) (shown : owner.Shows steps fault) :
    doc.Shows (base ++ steps) fault := by
  have further (steps : List String) : doc.follow (base ++ steps) = owner.follow steps := by
    rw [follow_append, leads, Option.bind_some]
  cases fault with
  | unknownKey key =>
      obtain ⟨above, inner, value, rfl, reached, found, shown⟩ := shown
      exact ⟨base ++ above, inner, value, (List.append_assoc ..).symm, (further above).trans reached,
        found, (further _).trans shown⟩
  | notSequence => exact shown
  | missing key => simpa only [Shows, further] using shown
  | missingIn part key => simpa only [Shows, further] using shown
  | mistyped part shape => simpa only [Shows, further] using shown
  | nothingToCheck => simpa only [Shows, further] using shown

theorem follow_key {owner value : Document} {key : String} (found : owner.get? key = some value) :
    owner.follow [key] = some value := by
  simp [follow, step_of_get found]

theorem follow_element {owner item : Document} {key : String} {items : List Document} {index : Nat}
    (listed : owner.get? key = some (.sequence items)) (placed : items[index]? = some item) :
    owner.follow [key, Location.elementSegment index] = some item := by
  simp [follow, step_of_get listed, step_of_element placed]

theorem part_shows {part : Part} {owner : Document} {flaw : Flaw} (distinct : owner.DistinctKeys)
    (wrong : PartFlaw part owner flaw) : owner.Shows flaw.place flaw.fault := by
  cases wrong with
  | flat misfit => exact ⟨owner, rfl, misfit⟩
  | missing mapping _ absent => cases part <;> exact ⟨owner, rfl, mapping, absent⟩
  | mistyped _ present misfit => exact ⟨_, follow_key present, misfit⟩
  | element _ present placed misfit => exact ⟨_, follow_element present placed, misfit⟩
  | @unknown entries key value mapping entry =>
      have found : owner.get? key = some value := by
        rw [get?, mapping]
        exact Fields.get_of_mem (distinct.names mapping) entry
      exact ⟨[], owner, value, rfl, rfl, found, follow_key found⟩

theorem follow_part {doc owner : Document} {part : Part} {base : List String}
    (place : doc.HasPart part base owner) : doc.follow base = some owner := by
  cases place with
  | whole => rfl
  | parameter listed placed => exact follow_element listed placed
  | guardedCase listed placed => exact follow_element listed placed

theorem DistinctKeys.of_part {doc owner : Document} {part : Part} {base : List String}
    (distinct : doc.DistinctKeys) (place : doc.HasPart part base owner) : owner.DistinctKeys := by
  cases place with
  | whole => exact distinct
  | parameter listed placed =>
      exact (distinct.of_get listed).of_element (List.mem_of_getElem? placed)
  | guardedCase listed placed =>
      exact (distinct.of_get listed).of_element (List.mem_of_getElem? placed)

theorem flaw_shows {doc : Document} {flaw : Flaw} (distinct : doc.DistinctKeys)
    (has : doc.HasFlaw flaw) : doc.Shows flaw.place flaw.fault := by
  cases has with
  | within place wrong =>
      exact shows_below (follow_part place) (part_shows (distinct.of_part place) wrong)
  | nothingToCheck mapping noCases noInvariants => exact ⟨doc, rfl, mapping, noCases, noInvariants⟩

end Document

/-- A location without a mark is the top of the document or ends in the number of an element. -/
theorem unmarked_place {doc : Document} {flaw : Flaw} (has : doc.HasFlaw flaw)
    (unmarked : flaw.fault.mark = []) :
    flaw.place = [] ∨ ∃ above index, flaw.place = above ++ [Location.elementSegment index] := by
  cases has with
  | nothingToCheck => exact .inl rfl
  | @within part base owner wrong place flawed =>
      have ends : base = [] ∨ ∃ above index, base = above ++ [Location.elementSegment index] := by
        cases place with
        | whole => exact .inl rfl
        | @parameter items index => exact .inr ⟨["params"], index, rfl⟩
        | @guardedCase items index => exact .inr ⟨["cases"], index, rfl⟩
      cases flawed with
      | flat => simpa [Flaw.below] using ends
      | missing => simpa [Flaw.below] using ends
      | @mistyped key shape value field =>
          -- No key of a specification has to hold a mapping, so the mark is there.
          have marked : shape ≠ .mapping := by
            rintro rfl
            cases part <;> simp [Part.fields] at field
          cases shape with
          | mapping => exact absurd rfl marked
          | sequence => cases unmarked
          | text => cases unmarked
          | scalar => cases unmarked
      | element => cases unmarked
      | unknown => cases unmarked

theorem mark_cases (fault : SchemaFault) :
    fault.mark = [] ∨ ∃ mark, Location.isMark mark = true ∧ fault.mark = [mark] := by
  unfold SchemaFault.mark
  split
  · split
    · exact .inl rfl
    · exact .inr ⟨Location.valueMark, rfl, rfl⟩
  · exact .inr ⟨Location.valueMark, rfl, rfl⟩
  · exact .inr ⟨Location.keyMark, rfl, rfl⟩
  · exact .inl rfl

theorem steps_of_flaw {doc : Document} {flaw : Flaw} (has : doc.HasFlaw flaw) :
    (flaw.defectAt .root).location.steps = flaw.place := by
  have segments : (flaw.defectAt .root).location = ⟨flaw.place ++ flaw.fault.mark⟩ := rfl
  rw [segments]
  rcases mark_cases flaw.fault with unmarked | ⟨mark, marks, ends⟩
  · rw [unmarked, List.append_nil]
    rcases unmarked_place has unmarked with top | ⟨above, index, element⟩
    · rw [top]
      rfl
    · rw [element, Location.steps_of_element]
  · rw [ends, Location.steps_of_mark flaw.place mark marks]

/-! ## The correspondence -/

theorem mem_errors {doc : Document} (distinct : doc.DistinctKeys) (e : SpecError) :
    e ∈ Schema.errors doc ↔ ∃ flaw, doc.HasFlaw flaw ∧ flaw.error = e := by
  unfold Schema.errors
  rw [List.mem_map]
  simp only [(Schema.defects_detect distinct).exact]
  constructor
  · rintro ⟨_, ⟨flaw, has, rfl⟩, rfl⟩
    exact ⟨flaw, has, rfl⟩
  · rintro ⟨flaw, has, rfl⟩
    exact ⟨_, ⟨flaw, has, rfl⟩, rfl⟩

theorem errors_once {doc : Document} (distinct : doc.DistinctKeys) : (Schema.errors doc).Nodup := by
  have found := Schema.defects_detect distinct
  refine found.once.map_on ?_
  intro one memberOne other memberOther same
  obtain ⟨flaw, has, rfl⟩ := (found.exact one).mp memberOne
  obtain ⟨twin, hasTwin, rfl⟩ := (found.exact other).mp memberOther
  rw [error_inj has hasTwin same]

/-- Errors that say what is wrong with a document, and where. -/
structure Document.Describes (doc : Document) (errors : List SpecError) : Prop where
  correspondence : Set.BijOn Flaw.error {flaw | doc.HasFlaw flaw} {e | e ∈ errors}
  once : errors.Nodup
  flat : ¬Shape.mapping.Fits doc →
    errors = [Flaw.error ⟨[], .mistyped "top level object" .mapping⟩]
  places : ∀ flaw, doc.HasFlaw flaw → ∃ place, flaw.error.location = some place ∧
    place.steps = flaw.place ∧ doc.Shows place.steps flaw.fault

/-- The errors of a document are those of its flaws, each given once and with the way to it. -/
theorem errors_are_flaws (doc : Document) (distinct : doc.DistinctKeys) :
    doc.Describes (Schema.errors doc) where
  correspondence := by
    refine ⟨?_, ?_, ?_⟩
    · intro flaw has
      exact (mem_errors distinct flaw.error).mpr ⟨flaw, has, rfl⟩
    · intro one hasOne other hasOther same
      exact error_inj hasOne hasOther same
    · intro e member
      exact (mem_errors distinct e).mp member
  once := errors_once distinct
  flat := by
    intro misfit
    have flat : doc.entries? = none := by simpa [Shape.Fits] using misfit
    unfold Schema.errors Schema.defects
    rw [flat]
    rfl
  places := by
    intro flaw has
    refine ⟨(flaw.defectAt .root).location, rfl, steps_of_flaw has, ?_⟩
    rw [steps_of_flaw has]
    exact Document.flaw_shows distinct has

/-- A draft with flaws at every depth. -/
def draftDocument : Document :=
  .mapping [("params", .sequence [.null, .mapping [("name", .text "least"), ("kind", .null)]]),
    ("cases", .sequence [.mapping [("where", .sequence [.text "n", .bool true])]]), ("owner", .null)]

theorem draft_errors_are_flaws :
    draftDocument.DistinctKeys ∧ (Schema.errors draftDocument).length = 8 ∧
      draftDocument.Describes (Schema.errors draftDocument) := by
  have distinct : draftDocument.DistinctKeys := by
    have null : Document.null.DistinctKeys := .leaf rfl rfl
    have text (value : String) : (Document.text value).DistinctKeys := .leaf rfl rfl
    have bool (value : Bool) : (Document.bool value).DistinctKeys := .leaf rfl rfl
    have parameter : (Document.mapping [("name", .text "least"), ("kind", .null)]).DistinctKeys :=
      .mapping (by decide) (by simp [null, text])
    have guards : (Document.sequence [.text "n", .bool true]).DistinctKeys :=
      .sequence (by simp [text, bool])
    have guarded : (Document.mapping [("where", .sequence [.text "n", .bool true])]).DistinctKeys :=
      .mapping (by decide) (by simp [guards])
    have parameters := Document.DistinctKeys.sequence (List.forall_mem_cons.mpr
      ⟨null, List.forall_mem_singleton.mpr parameter⟩)
    have cases := Document.DistinctKeys.sequence (List.forall_mem_singleton.mpr guarded)
    exact .mapping (by decide) (by simp [parameters, cases, null])
  exact ⟨distinct, rfl, errors_are_flaws draftDocument distinct⟩

end QueryCheck

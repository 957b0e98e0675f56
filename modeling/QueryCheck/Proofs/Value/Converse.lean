import QueryCheck.Proofs.Number.Orders
import QueryCheck.Value.Comparison

/-!
# Comparisons and their converses

With its sides exchanged, a comparison of two values finds the opposite order, or fails as well. Where
two values have an order, equality says whether it is the order of equals.
-/

namespace QueryCheck.Value

open Condition (Comparison EvalError)

set_option autoImplicit false

/-! ## Scalars -/

def OrderFault.converse : OrderFault → OrderFault
  | incomparable left right => incomparable right left
  | unreadable text kind => unreadable text kind

/-- What the comparison of two values finds when they are exchanged. -/
def converse : Except OrderFault (Option Ordering) → Except OrderFault (Option Ordering)
  | .ok found => .ok (found.map Ordering.swap)
  | .error fault => .error fault.converse

theorem converse_same (found : Except OrderFault (Option Ordering)) :
    converse found = .ok (some .eq) ↔ found = .ok (some .eq) := by
  cases found with
  | error fault => simp [converse]
  | ok order => simp [converse]

theorem number_order_swap (left right : Value) :
    numberOrder? right left = (numberOrder? left right).map (Option.map Ordering.swap) := by
  unfold numberOrder?
  cases left.toDecimal? with
  | none => cases left.toFloat? <;> cases right.toFloat? <;> simp [← Binary64.order_swap]
  | some a =>
      cases right.toDecimal? with
      | none => cases left.toFloat? <;> cases right.toFloat? <;> simp [← Binary64.order_swap]
      | some b => simp [Decimal.order_swap a b]

/-- Temporal values of which one is no time of day. -/
theorem temporal_order_apart {left right : Value}
    (apart : ∀ a b, left = time a → right ≠ time b) :
    temporalOrder? left right =
      left.instant?.bind fun a => right.instant?.map fun b => Ord.compare a b := by
  unfold temporalOrder?
  split
  · rename_i a b
    exact absurd rfl (apart a b rfl)
  · cases left.instant? <;> cases right.instant? <;> rfl

theorem temporal_order_swap (left right : Value) :
    temporalOrder? right left = (temporalOrder? left right).map Ordering.swap := by
  by_cases times : ∃ a b, left = time a ∧ right = time b
  · obtain ⟨a, b, rfl, rfl⟩ := times
    simp [temporalOrder?, Nat.compare_swap]
  · rw [temporal_order_apart fun a b isLeft isRight => times ⟨a, b, isLeft, isRight⟩,
      temporal_order_apart fun a b isRight isLeft => times ⟨b, a, isLeft, isRight⟩]
    cases left.instant? <;> cases right.instant? <;> simp [Int.compare_swap]

theorem coerce_error {v like : Value} {fault : OrderFault} (failed : coerce v like = .error fault) :
    (∃ text, v = string text) ∧ like.isTemporal = true ∧ fault.converse = fault := by
  unfold coerce at failed
  split at failed
  · rename_i text
    split at failed
    · rename_i temporal
      split at failed
      · cases failed
      · cases failed
        exact ⟨⟨text, rfl⟩, temporal, rfl⟩
    · cases failed
  · cases failed

/-- Truth values, texts and bytes have an order of their own. -/
inductive Alike : Value → Value → Prop where
  | bools (a b : Bool) : Alike (bool a) (bool b)
  | strings (a b : String) : Alike (string a) (string b)
  | bytes (a b : List UInt8) : Alike (bytes a) (bytes b)

theorem Alike.symm {left right : Value} (alike : Alike left right) : Alike right left := by
  cases alike with
  | bools a b => exact .bools b a
  | strings a b => exact .strings b a
  | bytes a b => exact .bytes b a

/-- The order of other scalars: numbers, then temporal values and texts beside them. -/
def mixedOrder (left right : Value) : Except OrderFault (Option Ordering) :=
  match numberOrder? left right, coerce left right, coerce right left with
  | some order, _, _ => .ok order
  | none, .error fault, _ => .error fault
  | none, _, .error fault => .error fault
  | none, .ok a, .ok b =>
    match temporalOrder? a b with
    | some order => .ok (some order)
    | none => .error (.incomparable left.kind right.kind)

theorem scalar_order_apart {left right : Value} (apart : ¬Alike left right) :
    scalarOrder left right = mixedOrder left right := by
  unfold scalarOrder mixedOrder
  split
  · rename_i a b
    exact absurd (.bools a b) apart
  · rename_i a b
    exact absurd (.strings a b) apart
  · rename_i a b
    exact absurd (.bytes a b) apart
  · cases numberOrder? left right with
    | some order => rfl
    | none => cases coerce left right <;> cases coerce right left <;> rfl

theorem mixed_order_converse (left right : Value) :
    mixedOrder right left = converse (mixedOrder left right) := by
  -- Only a text is read as another kind, and only beside a value that is no text: of the two readings
  -- at most one fails, so it does not matter which is tried first.
  unfold mixedOrder
  rw [number_order_swap]
  cases numberOrder? left right with
  | some order => rfl
  | none =>
      cases first : coerce left right with
      | error fault =>
          obtain ⟨⟨text, isText⟩, -, same⟩ := coerce_error first
          cases second : coerce right left with
          | error other =>
              obtain ⟨-, temporal, -⟩ := coerce_error second
              rw [isText] at temporal
              cases temporal
          | ok value => simp [converse, same]
      | ok a =>
          cases second : coerce right left with
          | error fault =>
              obtain ⟨-, -, same⟩ := coerce_error second
              simp [converse, same]
          | ok b =>
              simp only [Option.map_none, temporal_order_swap a b]
              cases temporalOrder? a b <;> rfl

theorem scalar_order_converse (left right : Value) :
    scalarOrder right left = converse (scalarOrder left right) := by
  by_cases alike : Alike left right
  · cases alike with
    | bools a b => simp [scalarOrder, converse, Nat.compare_swap]
    | strings a b =>
        change Except.ok (some (Text.order b a)) = .ok (some (Text.order a b).swap)
        rw [Text.order, Text.order, ← Std.OrientedCmp.eq_swap]
    | bytes a b =>
        change Except.ok (some (bytesOrder b a)) = .ok (some (bytesOrder a b).swap)
        rw [bytesOrder, bytesOrder, ← Std.OrientedCmp.eq_swap]
  · rw [scalar_order_apart alike, scalar_order_apart fun other => alike other.symm,
      mixed_order_converse]

/-! ## Nested values -/

theorem order_scalars {left right : Value} (apart : ∀ as bs, left = array as → right ≠ array bs) :
    left.order right = scalarOrder left right := by
  unfold order
  split
  · rename_i as bs
    exact absurd rfl (apart as bs rfl)
  · rfl

theorem order_items_same {a b : Value} (as bs : List Value)
    (same : a.order b = .ok (some .eq)) : orderItems (a :: as) (b :: bs) = orderItems as bs := by
  rw [orderItems, same]

theorem order_items_differ {a b : Value} (as bs : List Value)
    (differ : a.order b ≠ .ok (some .eq)) : orderItems (a :: as) (b :: bs) = a.order b := by
  unfold orderItems
  split
  · contradiction
  · rfl

theorem order_converse (left right : Value) : right.order left = converse (left.order right) := by
  -- Along the recursion of the order itself. The second statement is about the items of two arrays;
  -- the first pair that is not equal is the same from both sides.
  refine order.induct (fun left right => right.order left = converse (left.order right))
    (fun as bs => orderItems bs as = converse (orderItems as bs))
    ?arrays ?scalars ?ends ?shorter ?longer ?same ?differ left right
  case arrays =>
    intro as bs items
    rwa [order, order]
  case scalars =>
    intro a b apart
    rw [order_scalars apart, order_scalars fun bs as isRight isLeft => apart as bs isLeft isRight]
    exact scalar_order_converse a b
  case ends => rfl
  case shorter =>
    intro head tail
    rfl
  case longer =>
    intro head tail
    rfl
  case same =>
    intro a as b bs found swapped rest
    have back : b.order a = .ok (some .eq) := by
      rw [swapped, converse_same]
      exact found
    rw [order_items_same as bs found, order_items_same bs as back]
    exact rest
  case differ =>
    intro a as b bs differ swapped
    have back : b.order a ≠ .ok (some .eq) := by
      rw [swapped, ne_eq, converse_same]
      exact differ
    rw [order_items_differ as bs differ, order_items_differ bs as back]
    exact swapped

/-- Neither null nor a struct has an order to anything. -/
theorem orderable {left right : Value} {found : Option Ordering}
    (ordered : left.order right = .ok found) :
    left ≠ null ∧ ∀ fields, left ≠ struct fields := by
  constructor
  · rintro rfl
    cases right <;> cases ordered
  · rintro fields rfl
    cases right <;> cases ordered

/-! ## Equality -/

theorem same_order_iff (left right : Value) :
    left.sameOrder right = true ↔ left.order right = .ok (some .eq) := by
  unfold sameOrder
  split
  · rename_i same
    simp [same]
  · rename_i differ
    simpa using differ

theorem same_order_comm (left right : Value) : left.sameOrder right = right.sameOrder left := by
  rw [Bool.eq_iff_iff, same_order_iff, same_order_iff, order_converse left right, converse_same]

/-- Values that are neither null nor nested alike are equal by their order. -/
theorem equal_scalars {left right : Value} (leftValue : left ≠ null) (rightValue : right ≠ null)
    (arrays : ∀ as bs, left = array as → right ≠ array bs)
    (structs : ∀ as bs, left = struct as → right ≠ struct bs) :
    left.equal right = left.sameOrder right := by
  unfold equal
  split
  · contradiction
  · contradiction
  · contradiction
  · rename_i as bs
    exact absurd rfl (arrays as bs rfl)
  · rename_i as bs
    exact absurd rfl (structs as bs rfl)
  · rfl

theorem equal_comm (left right : Value) : left.equal right = right.equal left := by
  refine equal.induct (fun left right => left.equal right = right.equal left)
    (fun as bs => equalFields as bs = equalFields bs as)
    (fun as bs => equalItems as bs = equalItems bs as)
    ?nulls ?nullLeft ?nullRight ?arrays ?structs ?others ?noItems ?items ?itemsApart ?noFields
    ?fields ?fieldsApart left right
  case nulls => rfl
  case nullLeft =>
    intro other notNull
    cases other with
    | null => contradiction
    | _ => rfl
  case nullRight =>
    intro other notNull
    cases other with
    | null => contradiction
    | _ => rfl
  case arrays =>
    intro as bs items
    rwa [equal, equal]
  case structs =>
    intro as bs fields
    rwa [equal, equal]
  case others =>
    intro a b notNulls notNullLeft notNullRight notArrays notStructs
    rw [equal_scalars notNullLeft notNullRight notArrays notStructs,
      equal_scalars notNullRight notNullLeft
        (fun bs as isRight isLeft => notArrays as bs isLeft isRight)
        (fun bs as isRight isLeft => notStructs as bs isLeft isRight)]
    exact same_order_comm a b
  case noItems => rfl
  case items =>
    intro a as b bs first rest
    rw [equalItems, equalItems, first, rest]
  case itemsApart =>
    intro as bs notEnds notItems
    cases as with
    | nil => cases bs <;> rfl
    | cons a as =>
        cases bs with
        | nil => rfl
        | cons b bs => exact absurd rfl (notItems a as b bs rfl)
  case noFields => rfl
  case fields =>
    intro nameA a as nameB b bs first rest
    rw [equalFields, equalFields, first, rest, Bool.beq_comm]
  case fieldsApart =>
    intro as bs notEnds notFields
    cases as with
    | nil => cases bs <;> rfl
    | cons a as =>
        cases bs with
        | nil => rfl
        | cons b bs => exact absurd rfl (notFields a.1 a.2 as b.1 b.2 bs rfl)

/-- Where two values have an order, they are equal when it is the order of equals. -/
theorem equal_of_order {left right : Value} {found : Option Ordering}
    (ordered : left.order right = .ok found) : left.equal right = (found == some .eq) := by
  revert found
  refine order.induct
    (fun left right => ∀ {found}, left.order right = .ok found →
      left.equal right = (found == some .eq))
    (fun as bs => ∀ {found}, orderItems as bs = .ok found → equalItems as bs = (found == some .eq))
    ?arrays ?scalars ?ends ?shorter ?longer ?same ?differ left right
  case arrays =>
    intro as bs items found ordered
    rw [order] at ordered
    rw [equal]
    exact items ordered
  case scalars =>
    intro a b apart found ordered
    have back := order_converse a b
    rw [ordered] at back
    obtain ⟨notNullLeft, notStruct⟩ := orderable ordered
    obtain ⟨notNullRight, -⟩ := orderable back
    rw [equal_scalars notNullLeft notNullRight apart
      (fun fields _ isStruct => absurd isStruct (notStruct fields)), Bool.eq_iff_iff, same_order_iff,
      ordered, beq_iff_eq, Except.ok.injEq]
  case ends =>
    intro found ordered
    cases ordered
    rfl
  case shorter =>
    intro head tail found ordered
    cases ordered
    rfl
  case longer =>
    intro head tail found ordered
    cases ordered
    rfl
  case same =>
    intro a as b bs same first rest found ordered
    rw [order_items_same as bs same] at ordered
    rw [equalItems, first same, rest ordered]
    rfl
  case differ =>
    intro a as b bs differ first found ordered
    rw [order_items_differ as bs differ] at ordered
    have apart : found ≠ some .eq := by
      rintro rfl
      exact differ ordered
    rw [equalItems, first ordered, beq_eq_false_iff_ne.mpr apart]
    rfl

/-! ## Comparisons -/

/-- The comparisons that ask for an order. -/
def orderings : List Comparison :=
  [.less, .lessEqual, .greater, .greaterEqual]

/-- The comparison has a value, and it is true. -/
def Holds (op : Comparison) (left right : Value) : Prop :=
  Value.compare op left right = .ok true

theorem holds_equal_iff (left right : Value) :
    Holds .equal left right ↔ left.equal right = true := by
  change Except.ok (left.equal right) = .ok true ↔ _
  rw [Except.ok.injEq]

theorem is_null_iff (v : Value) : v.isNull = true ↔ v = null := by
  cases v <;> simp [isNull]

theorem ordered_found (op : Comparison) (accepts : Ordering → Bool) {left right : Value}
    {found : Option Ordering} (order : left.order right = .ok found) :
    ordered op accepts left right = .ok (found.any accepts) := by
  have back := order_converse left right
  rw [order] at back
  have leftValue := (orderable order).1
  have rightValue := (orderable back).1
  rw [ordered, if_neg (by simp [is_null_iff, leftValue, rightValue]), order]
  cases found <;> rfl

theorem order_of_ordered {op : Comparison} {accepts : Ordering → Bool} {left right : Value}
    {outcome : Bool} (leftValue : left ≠ null) (rightValue : right ≠ null)
    (holds : ordered op accepts left right = .ok outcome) :
    ∃ found, left.order right = .ok found := by
  rw [ordered, if_neg (by simp [is_null_iff, leftValue, rightValue])] at holds
  cases order : left.order right with
  | ok found => exact ⟨found, rfl⟩
  | error fault =>
      rw [order] at holds
      cases holds

theorem ordered_converse {op other : Comparison} {accepts acceptsSwapped : Ordering → Bool}
    (swapped : ∀ found, acceptsSwapped found.swap = accepts found) {left right : Value}
    {outcome : Bool} (holds : ordered op accepts left right = .ok outcome) :
    ordered other acceptsSwapped right left = .ok outcome := by
  by_cases nulls : left = null ∨ right = null
  · have none : (left.isNull || right.isNull) = true := by simpa [is_null_iff] using nulls
    rw [ordered, if_pos none] at holds
    rw [ordered, if_pos (Bool.or_comm _ _ ▸ none)]
    exact holds
  · rw [not_or] at nulls
    obtain ⟨found, order⟩ := order_of_ordered nulls.1 nulls.2 holds
    rw [ordered_found op accepts order] at holds
    rw [ordered_found other acceptsSwapped ((order_converse left right).trans (by rw [order]; rfl)),
      ← holds]
    cases found with
    | none => rfl
    | some found => exact congrArg Except.ok (swapped found)

/-- Two comparisons that say the same with their sides exchanged -/
inductive Mirrored : Comparison → Comparison → Prop where
  | strict : Mirrored .less .greater
  | weak : Mirrored .lessEqual .greaterEqual

theorem mirrored_converse {op other : Comparison} (mirrored : Mirrored op other) (left right : Value)
    (outcome : Bool) :
    Value.compare op left right = .ok outcome ↔ Value.compare other right left = .ok outcome := by
  cases mirrored <;> constructor <;> exact ordered_converse fun found => by cases found <;> rfl

/-- What the order of two values makes of the comparisons. -/
theorem holds_of_order {left right : Value} {found : Option Ordering}
    (order : left.order right = .ok found) :
    (Holds .equal left right ↔ found = some .eq) ∧ (Holds .less left right ↔ found = some .lt) ∧
      (Holds .greater left right ↔ found = some .gt) ∧
      (Holds .lessEqual left right ↔ found = some .lt ∨ found = some .eq) ∧
      (Holds .greaterEqual left right ↔ found = some .gt ∨ found = some .eq) := by
  have value : ∀ (op : Comparison) (accepts : Ordering → Bool),
      ordered op accepts left right = .ok true ↔ found.any accepts = true := by
    intro op accepts
    rw [ordered_found op accepts order, Except.ok.injEq]
  refine ⟨?_, (value .less _).trans ?_, (value .greater _).trans ?_, (value .lessEqual _).trans ?_,
    (value .greaterEqual _).trans ?_⟩
  · rw [holds_equal_iff, equal_of_order order, beq_iff_eq]
  all_goals
    cases found with
    | none => simp
    | some found => cases found <;> simp

theorem exclusive_of_order {left right : Value} {found : Option Ordering}
    (order : left.order right = .ok found) :
    [Comparison.less, .equal, .greater].Pairwise
      (fun one other => ¬(Holds one left right ∧ Holds other left right)) := by
  obtain ⟨equal, less, greater, -⟩ := holds_of_order order
  simp only [List.pairwise_cons, List.mem_cons, List.not_mem_nil, or_false, forall_eq_or_imp,
    forall_eq, equal, less, greater]
  cases found with
  | none => simp
  | some found => cases found <;> simp

/-- Equality is symmetric, every ordering comparison has the converse of its sides exchanged, and where
two values that are not null can be ordered at all, the comparisons agree with each other. -/
theorem comparisons_agree (left right : Value) :
    (Holds .equal left right ↔ Holds .equal right left) ∧
    (∀ outcome, Value.compare .less left right = .ok outcome ↔
      Value.compare .greater right left = .ok outcome) ∧
    (∀ outcome, Value.compare .lessEqual left right = .ok outcome ↔
      Value.compare .greaterEqual right left = .ok outcome) ∧
    (left ≠ null → right ≠ null →
      ∀ op ∈ orderings, (∃ outcome, Value.compare op left right = .ok outcome) →
        (Holds .lessEqual left right ↔ Holds .less left right ∨ Holds .equal left right) ∧
        [Comparison.less, .equal, .greater].Pairwise
          (fun one other => ¬(Holds one left right ∧ Holds other left right)) ∧
        (Holds .equal left right ↔
          Holds .lessEqual left right ∧ Holds .greaterEqual left right)) := by
  refine ⟨?_, mirrored_converse .strict left right, mirrored_converse .weak left right, ?_⟩
  · rw [holds_equal_iff, holds_equal_iff, equal_comm]
  · intro leftValue rightValue op ordering succeeds
    obtain ⟨outcome, succeeds⟩ := succeeds
    have order : ∃ found, left.order right = .ok found := by
      simp only [orderings, List.mem_cons, List.not_mem_nil, or_false] at ordering
      rcases ordering with rfl | rfl | rfl | rfl <;>
        exact order_of_ordered leftValue rightValue succeeds
    obtain ⟨found, order⟩ := order
    obtain ⟨equal, less, -, lessEqual, greaterEqual⟩ := holds_of_order order
    refine ⟨?_, exclusive_of_order order, ?_⟩
    · rw [lessEqual, less, equal]
    · rw [equal, lessEqual, greaterEqual]
      cases found with
      | none => simp
      | some found => cases found <;> simp

def marchFirst : Date := ⟨2024, 3, 1, by decide, by decide, by decide⟩

/-- The last day of a February as a text, behind numbers. -/
def februaryEnd : Value :=
  array [array [int64 2, numeric ⟨false, 150, 2, by decide, by decide⟩], string "2024-02-29"]

/-- The day after it as a date, behind the same numbers written otherwise. -/
def marchStart : Value :=
  array [array [numeric ⟨false, 20, 1, by decide, by decide⟩,
    numeric ⟨false, 15, 1, by decide, by decide⟩],
    date marchFirst]

theorem month_ends_agree :
    februaryEnd ≠ null ∧ marchStart ≠ null ∧ Comparison.lessEqual ∈ orderings ∧
      Value.compare .lessEqual februaryEnd marchStart = .ok true ∧
      (Holds .lessEqual februaryEnd marchStart ↔
        Holds .less februaryEnd marchStart ∨ Holds .equal februaryEnd marchStart) ∧
      [Comparison.less, .equal, .greater].Pairwise (fun one other =>
        ¬(Holds one februaryEnd marchStart ∧ Holds other februaryEnd marchStart)) ∧
      (Holds .equal februaryEnd marchStart ↔
        Holds .lessEqual februaryEnd marchStart ∧ Holds .greaterEqual februaryEnd marchStart) := by
  have left : februaryEnd ≠ null := by simp [februaryEnd]
  have right : marchStart ≠ null := by simp [marchStart]
  have ordering : Comparison.lessEqual ∈ orderings := by decide
  have succeeds : Value.compare .lessEqual februaryEnd marchStart = .ok true := rfl
  exact ⟨left, right, ordering, succeeds,
    (comparisons_agree februaryEnd marchStart).2.2.2 left right .lessEqual ordering ⟨true, succeeds⟩⟩

end QueryCheck.Value

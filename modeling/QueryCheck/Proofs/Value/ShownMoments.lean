import QueryCheck.Proofs.ShownClocks
import QueryCheck.Proofs.Value.Converse
import QueryCheck.Value.Json

/-!
# Moments beside their own text

The text that a report shows for a temporal value is also the text that stands in its JSON. Beside the value
it is read as the type of that value, so the two are equal exactly when this reading finds the value again.
-/

namespace QueryCheck.Value

set_option autoImplicit false

/-! ## Text beside temporal values -/

theorem order_text {v : Value} (temporal : v.isTemporal = true) (text : String) :
    v.order (string text) =
      match ofText? v.kind text with
      | none => .error (.unreadable text v.kind)
      | some value =>
        match temporalOrder? v value with
        | some found => .ok (some found)
        | none => .error (.incomparable v.kind .string) := by
  have arrays : ∀ as bs, v = array as → string text ≠ array bs := fun _ _ _ => nofun
  have apart : ¬Alike v (string text) := by
    rintro ⟨⟩
    cases temporal
  have numbers : numberOrder? v (string text) = none := by cases v <;> rfl
  have stays : coerce v (string text) = .ok v := by cases v <;> rfl
  rw [order_scalars arrays, scalar_order_apart apart, mixedOrder, numbers, stays, coerce, if_pos temporal]
  cases ofText? v.kind text <;> rfl

/-- A text equals a temporal value when it denotes one at the same place. -/
theorem equal_text_iff {v : Value} (temporal : v.isTemporal = true) (text : String) :
    v.equal (string text) = true ↔
      ∃ value, ofText? v.kind text = some value ∧ temporalOrder? v value = some .eq := by
  have arrays : ∀ as bs, v = array as → string text ≠ array bs := fun _ _ _ => nofun
  have structs : ∀ as bs, v = struct as → string text ≠ struct bs := fun _ _ _ => nofun
  have notNull : v ≠ null := by
    rintro rfl
    cases temporal
  rw [equal_scalars notNull Value.noConfusion arrays structs, same_order_iff, order_text temporal]
  cases ofText? v.kind text with
  | none => simp
  | some value => cases order : temporalOrder? v value <;> simp [order]

theorem temporal_order_refl {v : Value} (temporal : v.isTemporal = true) :
    temporalOrder? v v = some .eq := by
  cases v with
  | date d => exact congrArg some Std.ReflCmp.compare_self
  | datetime dt => exact congrArg some Std.ReflCmp.compare_self
  | time t => exact congrArg some Std.ReflCmp.compare_self
  | timestamp ts => exact congrArg some Std.ReflCmp.compare_self
  | _ => cases temporal

/-! ## Shown values -/

/-- Whether the text that is shown for a temporal value is one that is read: every hour that is shown
needs two digits, unless it stands in an internet timestamp, which pads its hours. -/
def isLegible : Value → Bool
  | datetime dt => decide (10 ≤ dt.time.hour)
  | time t => decide (10 ≤ t.hour)
  | timestamp ts => ts.hasInternetForm
  | _ => true

theorem shown_text_read {v : Value} (temporal : v.isTemporal = true) :
    ofText? v.kind v.text = if v.isLegible then some v else none := by
  cases v with
  | date d =>
      change (Calendar.readDate? (String.ofList d.text).toList).map date = _
      rw [String.toList_ofList, Calendar.read_date_text]
      rfl
  | datetime dt =>
      change (Calendar.readDateTime? (String.ofList dt.text).toList).map datetime = _
      rw [String.toList_ofList, Calendar.read_shown_date_time]
      simp only [isLegible, decide_eq_true_iff]
      split <;> rfl
  | time t =>
      change (Calendar.readTimeOfDay? (String.ofList t.text).toList).map time = _
      rw [String.toList_ofList, Calendar.read_shown_time]
      simp only [isLegible, decide_eq_true_iff]
      split <;> rfl
  | timestamp ts =>
      change (Calendar.readTimestamp? (String.ofList ts.text).toList).map timestamp = _
      rw [String.toList_ofList, Calendar.read_shown_timestamp]
      cases form : ts.hasInternetForm <;> simp [isLegible, form]
  | _ => cases temporal

/-- What is shown for a temporal value is its JSON, and equals the value when the reader of its type knows
the form it is shown in. -/
theorem shown_moment_equals {v : Value} (temporal : v.isTemporal = true) :
    v.toJson = .string v.text ∧ v.equal (string v.text) = v.isLegible := by
  constructor
  · cases v with
    | date d => rfl
    | datetime dt => rfl
    | time t => rfl
    | timestamp ts => rfl
    | _ => cases temporal
  · rw [Bool.eq_iff_iff, equal_text_iff temporal, shown_text_read temporal]
    cases v.isLegible with
    | true => simpa using temporal_order_refl temporal
    | false => simp

def teaTime : TimeOfDay :=
  { TimeOfDay.midnight with
    hour := 16, minute := 15, nanosecond := 500000000
    hour_lt := by decide, minute_lt := by decide, nanosecond_lt := by decide }

theorem tea_time_equals_text :
    (time teaTime).isTemporal = true ∧ (time teaTime).text = "16:15:00.5" ∧
      (time teaTime).toJson = .string (time teaTime).text ∧
      (time teaTime).equal (string (time teaTime).text) = true :=
  have temporal : (time teaTime).isTemporal = true := rfl
  ⟨temporal, rfl, (shown_moment_equals temporal).1, (shown_moment_equals temporal).2⟩

def breakfast : TimeOfDay :=
  { TimeOfDay.midnight with
    hour := 8, minute := 9, second := 10
    hour_lt := by decide, minute_lt := by decide, second_lt := by decide }

/-- An hour of one digit is shown without a zero, and the reader asks for two digits. -/
theorem breakfast_differs_from_text :
    (time breakfast).isTemporal = true ∧ (time breakfast).text = "8:09:10.0" ∧
      (time breakfast).equal (string (time breakfast).text) = false :=
  ⟨rfl, rfl, rfl⟩

end QueryCheck.Value

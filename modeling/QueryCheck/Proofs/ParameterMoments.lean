import QueryCheck.Proofs.Building

/-!
# One text as a date-time and as a timestamp

Both types accept the same texts. The date-time is the clock at Greenwich at the instant of the timestamp,
and there is none exactly when that clock shows a year outside the calendar.
-/

namespace QueryCheck.ParameterValue

set_option autoImplicit false

/-- A text without an offset stands for its own clock, one with an offset for the clock at Greenwich. -/
theorem resolve_date_time_of_timestamp {text : List Char} {ts : Timestamp}
    (read : Calendar.readTimestamp? text = some ts) :
    resolveDateTime text =
      match ts.utcCivil? with
      | some dt => .ok (.datetime dt)
      | none => .error .beyondCalendar := by
  unfold resolveDateTime
  rw [read]
  cases civil : Calendar.readDateTime? text with
  | none => rfl
  | some dt =>
      rw [Calendar.read_timestamp_of_date_time civil] at read
      cases read
      rw [Timestamp.utc_civil_at_utc]

theorem resolve_date_time_ok_iff {text : List Char} {ts : Timestamp}
    (read : Calendar.readTimestamp? text = some ts) (found : ParameterValue) :
    resolveDateTime text = .ok found ↔
      ∃ dt, found = .datetime dt ∧ (Timestamp.atUtc dt).instant = ts.instant := by
  rw [resolve_date_time_of_timestamp read]
  simp only [Timestamp.instant_at_utc, ← ts.utc_civil_some]
  cases ts.utcCivil? with
  | none => simp
  | some dt => simp [eq_comm]

theorem resolve_date_time_beyond_iff {text : List Char} {ts : Timestamp}
    (read : Calendar.readTimestamp? text = some ts) :
    resolveDateTime text = .error .beyondCalendar ↔ ts.LeavesCalendar := by
  rw [resolve_date_time_of_timestamp read, ← ts.utc_civil_none]
  cases ts.utcCivil? <;> simp

/-- A text is accepted for both types or for neither. Where it is a timestamp, the date-times that it can
stand for are those that show the same instant when they are read at offset zero; there is one unless
the instant lies outside the calendar. -/
theorem date_times_are_timestamps (text : String) :
    (ScalarType.datetime.accepts (.text text) = true ↔ ScalarType.timestamp.accepts (.text text) = true) ∧
      (resolve .datetime (.text text) = .error .unfit ↔ resolve .timestamp (.text text) = .error .unfit) ∧
      ∀ value, resolve .timestamp (.text text) = .ok value → ∃ ts, value = .timestamp ts ∧
        (∀ found, resolve .datetime (.text text) = .ok found ↔
          ∃ dt, found = .datetime dt ∧ (Timestamp.atUtc dt).instant = ts.instant) ∧
        (resolve .datetime (.text text) = .error .beyondCalendar ↔ ts.LeavesCalendar) := by
  refine ⟨Iff.rfl, ?unfit, ?moments⟩
  case unfit =>
    rw [resolve_unfit, resolve_unfit]
    rfl
  case moments =>
    intro value resolved
    obtain ⟨ts, read, rfl⟩ := or_unfit_ok.mp resolved
    exact ⟨ts, rfl, resolve_date_time_ok_iff read, resolve_date_time_beyond_iff read⟩

/-- The first half hour of a year, where clocks are two hours ahead of Greenwich -/
def newYear : Timestamp :=
  ⟨⟨{ Date.earliest with year := 2023, year_range := by decide, day_range := by decide },
    { TimeOfDay.midnight with minute := 30, minute_lt := by decide }⟩, 120⟩

/-- The same moment, in the year before -/
def newYearAtGreenwich : DateTime :=
  ⟨{ Date.latest with year := 2022, year_range := by decide, day_range := by decide },
    { TimeOfDay.midnight with hour := 22, minute := 30, hour_lt := by decide, minute_lt := by decide }⟩

theorem new_year_is_timestamp :
    resolve .timestamp (.text " 2023-01-01 00:30:00+02:00 UTC") = .ok (.timestamp newYear) ∧
      resolve .datetime (.text " 2023-01-01 00:30:00+02:00 UTC") = .ok (.datetime newYearAtGreenwich) := by
  have read : Calendar.readTimestamp? " 2023-01-01 00:30:00+02:00 UTC".toList = some newYear := by
    decide +kernel
  have resolved : resolve .timestamp (.text " 2023-01-01 00:30:00+02:00 UTC") = .ok (.timestamp newYear) :=
    or_unfit_ok.mpr ⟨newYear, read, rfl⟩
  obtain ⟨ts, same, moments, -⟩ := (date_times_are_timestamps " 2023-01-01 00:30:00+02:00 UTC").2.2 _ resolved
  cases same
  exact ⟨resolved, (moments _).mpr ⟨newYearAtGreenwich, rfl, by decide +kernel⟩⟩

end QueryCheck.ParameterValue

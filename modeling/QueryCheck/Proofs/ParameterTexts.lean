import QueryCheck.Proofs.Building
import QueryCheck.Proofs.WrittenClocks

/-!
# Texts of parameters

A date, date-time or timestamp is sent as a text that is resolved to the same value, cut to whole
microseconds; a timestamp is then the same instant at offset zero. That value is sent as the same text.
-/

namespace QueryCheck

set_option autoImplicit false

open Warehouse (clockText parameterText)

/-! ## Clocks to the microsecond -/

theorem clock_text_to_micros (dt : DateTime) : clockText dt.toMicros = clockText dt := by
  have micros : dt.time.nanosecond / 1000 * 1000 / 1000 = dt.time.nanosecond / 1000 := by omega
  change _ ++ '.' :: paddedText 6 (dt.time.nanosecond / 1000 * 1000 / 1000) = _
  rw [micros]
  rfl

theorem to_micros_of_whole {dt : DateTime} (whole : dt.time.nanosecond % 1000 = 0) : dt.toMicros = dt := by
  have same : dt.time.nanosecond / 1000 * 1000 = dt.time.nanosecond := by omega
  simp only [DateTime.toMicros, TimeOfDay.toMicros, same]

theorem Timestamp.instant_micros (ts : Timestamp) : ts.instant % 1000 = ts.civil.time.nanosecond % 1000 := by
  simp only [instant, DateTime.nanos, TimeOfDay.nanos, nanosPerMinute, TimeOfDay.nanosPerDay,
    TimeOfDay.nanosPerSecond]
  omega

namespace ParameterValue

/-- The value cut to whole microseconds, a timestamp being moved to offset zero -/
inductive ToMicros : ParameterValue → ParameterValue → Prop where
  | timestamp {ts later : Timestamp} (utc : later.offset = 0)
      (cut : later.instant = ts.instant / 1000 * 1000) : ToMicros (.timestamp ts) (.timestamp later)
  | datetime (dt : DateTime) : ToMicros (.datetime dt) (.datetime dt.toMicros)
  | date (d : Date) : ToMicros (.date d) (.date d)

/-- The clock has no digits below the microsecond. -/
def WholeMicros : ParameterValue → Prop
  | .timestamp ts => ts.civil.time.nanosecond % 1000 = 0
  | .datetime dt => dt.time.nanosecond % 1000 = 0
  | _ => True

/-- The same value, or the same instant -/
def SameMoment : ParameterValue → ParameterValue → Prop
  | .timestamp ts, .timestamp later => later.instant = ts.instant
  | value, later => later = value

theorem ToMicros.of_whole {value later : ParameterValue} (cut : ToMicros value later)
    (whole : value.WholeMicros) : SameMoment value later := by
  cases cut with
  | timestamp utc cut =>
      rename_i ts later
      have digits := ts.instant_micros
      change later.instant = ts.instant
      change ts.civil.time.nanosecond % 1000 = 0 at whole
      omega
  | datetime dt => exact congrArg ParameterValue.datetime (to_micros_of_whole whole)
  | date d => rfl

/-- What is read back from the text of a value -/
def ReadsBack (type : ScalarType) (value : ParameterValue) (text : List Char) : Prop :=
  ∃ later, resolve type (.text (String.ofList text)) = .ok later ∧ ToMicros value later ∧
    parameterText later = some text

theorem timestamp_reads_back {ts : Timestamp} {text : List Char}
    (encoded : parameterText (.timestamp ts) = some text) : ReadsBack .timestamp (.timestamp ts) text := by
  obtain ⟨utc, civil, rfl⟩ := Option.map_eq_some_iff.mp encoded
  have instant := (ts.utc_civil_some utc).mp civil
  refine ⟨.timestamp (.atUtc utc.toMicros), ?resolved, .timestamp rfl ?cut, ?encoded⟩
  case resolved =>
    rw [resolve, String.toList_ofList, Calendar.read_utc_text]
    rfl
  case cut => rw [Timestamp.instant_at_utc, DateTime.nanos_to_micros, instant]
  case encoded =>
    have again := (Timestamp.utc_civil_some (.atUtc utc.toMicros) utc.toMicros).mpr
      (Timestamp.instant_at_utc _).symm
    rw [parameterText, again, Option.map_some, clock_text_to_micros]

theorem datetime_reads_back (dt : DateTime) : ReadsBack .datetime (.datetime dt) (clockText dt) := by
  refine ⟨.datetime dt.toMicros, ?_, .datetime dt, congrArg some (clock_text_to_micros dt)⟩
  rw [resolve, String.toList_ofList, resolveDateTime, Calendar.read_clock_text]

theorem date_reads_back (d : Date) : ReadsBack .date (.date d) d.text := by
  refine ⟨.date d, ?_, .date d, rfl⟩
  rw [resolve, String.toList_ofList, Calendar.read_date_text]
  rfl

/-- The text that a date, date-time or timestamp is sent as is resolved to the value cut to whole
microseconds, which is sent as the same text again. A value with no digits below the microsecond comes back
as it was, a timestamp at offset zero. -/
theorem sent_moments_read_back {type : ScalarType} {written : String} {value : ParameterValue}
    {text : List Char} (moment : type = .timestamp ∨ type = .datetime ∨ type = .date)
    (resolved : resolve type (.text written) = .ok value) (encoded : parameterText value = some text) :
    ∃ later, resolve type (.text (String.ofList text)) = .ok later ∧ ToMicros value later ∧
      parameterText later = some text ∧ (value.WholeMicros → SameMoment value later) := by
  have back : ReadsBack type value text := by
    rcases moment with rfl | rfl | rfl
    · obtain ⟨ts, -, rfl⟩ := or_unfit_ok.mp resolved
      exact timestamp_reads_back encoded
    · obtain ⟨dt, rfl, -⟩ := (resolve_date_time_ok _ _).mp resolved
      cases encoded
      exact datetime_reads_back dt
    · obtain ⟨d, -, rfl⟩ := or_unfit_ok.mp resolved
      cases encoded
      exact date_reads_back d
  obtain ⟨later, again, cut, same⟩ := back
  exact ⟨later, again, cut, same, cut.of_whole⟩

/-- An afternoon before the year zero, where clocks are an hour and a half ahead -/
def oldAfternoon : Timestamp :=
  ⟨⟨⟨-44, 2, 15, by decide, by decide, by decide⟩,
    ⟨14, 20, 41, 123456789, by decide, by decide, by decide, by decide⟩⟩, 90⟩

theorem old_afternoon_reads_back :
    resolve .timestamp (.text "-0044-02-15 14:20:41.123456789+01:30") = .ok (.timestamp oldAfternoon) ∧
      parameterText (.timestamp oldAfternoon) = some "-0044-02-15 12:50:41.123456+00:00".toList ∧
      ∃ later, resolve .timestamp (.text "-0044-02-15 12:50:41.123456+00:00") = .ok later ∧
        ToMicros (.timestamp oldAfternoon) later ∧
        parameterText later = some "-0044-02-15 12:50:41.123456+00:00".toList := by
  have read : Calendar.readTimestamp? "-0044-02-15 14:20:41.123456789+01:30".toList = some oldAfternoon := by
    decide +kernel
  have resolved : resolve .timestamp (.text "-0044-02-15 14:20:41.123456789+01:30") =
      .ok (.timestamp oldAfternoon) := or_unfit_ok.mpr ⟨oldAfternoon, read, rfl⟩
  have encoded : parameterText (.timestamp oldAfternoon) = some "-0044-02-15 12:50:41.123456+00:00".toList := by
    decide +kernel
  obtain ⟨later, again, cut, same, -⟩ := sent_moments_read_back (.inl rfl) resolved encoded
  rw [String.ofList_toList] at again
  exact ⟨resolved, encoded, later, again, cut, same⟩

end ParameterValue

end QueryCheck

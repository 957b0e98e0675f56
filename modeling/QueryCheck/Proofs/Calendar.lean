import QueryCheck.Calendar.Timestamp

/-!
# Dates on the line of days

Every day of the calendar has one date, and days outside it have none. The same holds for instants and
the date-times that a clock shows.
-/

namespace QueryCheck

set_option autoImplicit false

namespace Date

/-! ## Years -/

def yearLength (year : Int) : Nat :=
  if isLeapYear year then 366 else 365

theorem days_before_next_year (year : Int) :
    daysBeforeYear (year + 1) = daysBeforeYear year + yearLength year := by
  unfold daysBeforeYear yearLength isLeapYear
  by_cases fourth : year % 4 = 0
  · by_cases century : year % 100 = 0
    · by_cases era : year % 400 = 0
      · simp [fourth, century, era]
        omega
      · simp [fourth, century, era]
        omega
    · simp [fourth, century]
      omega
  · simp [fourth]
    omega

theorem days_before_year_mono {year later : Int} (earlier : year ≤ later) :
    daysBeforeYear year ≤ daysBeforeYear later := by
  unfold daysBeforeYear
  omega

theorem year_of_day_spec (day : Int) :
    daysBeforeYear (yearOfDay day) ≤ day ∧ day < daysBeforeYear (yearOfDay day + 1) := by
  -- The mean length of a year gives the year or one beside it, whatever the leap years before are.
  have lower : daysBeforeYear (day * 400 / 146097 - 1) ≤ day := by
    unfold daysBeforeYear
    omega
  have upper : day < daysBeforeYear (day * 400 / 146097 + 2) := by
    unfold daysBeforeYear
    omega
  unfold yearOfDay
  dsimp only
  split
  · rename_i late
    exact ⟨late, by rw [Int.add_assoc]; exact upper⟩
  · rename_i notLate
    split
    · rename_i early
      exact ⟨lower, by rw [Int.sub_add_cancel]; exact early⟩
    · rename_i notEarly
      exact ⟨by omega, by omega⟩

/-- A day belongs to one year only. -/
theorem year_of_day_unique (day year : Int) (started : daysBeforeYear year ≤ day)
    (running : day < daysBeforeYear (year + 1)) : yearOfDay day = year := by
  have spec := year_of_day_spec day
  rcases Int.lt_trichotomy (yearOfDay day) year with earlier | same | later
  · have bound := days_before_year_mono (show yearOfDay day + 1 ≤ year by omega)
    omega
  · exact same
  · have bound := days_before_year_mono (show year + 1 ≤ yearOfDay day by omega)
    omega

/-! ## Months -/

theorem days_before_next_month (year : Int) (month : Nat) (positive : 1 ≤ month) :
    daysBeforeMonth year (month + 1) = daysBeforeMonth year month + monthLength year month := by
  unfold daysBeforeMonth
  have split : month + 1 - 1 = month - 1 + 1 := by omega
  rw [split, List.range_succ, List.foldl_append, List.foldl_cons, List.foldl_nil,
    Nat.sub_add_cancel positive]

theorem days_before_month_mono (year : Int) {month later : Nat} (positive : 1 ≤ month)
    (earlier : month ≤ later) : daysBeforeMonth year month ≤ daysBeforeMonth year later := by
  obtain ⟨months, rfl⟩ := Nat.exists_eq_add_of_le earlier
  induction months with
  | zero => exact Nat.le_refl _
  | succ months induction =>
      have before := induction (Nat.le_add_right month months)
      rw [← Nat.add_assoc, days_before_next_month year (month + months) (by omega)]
      omega

theorem days_before_thirteenth_month (year : Int) : daysBeforeMonth year 13 = yearLength year := by
  unfold daysBeforeMonth yearLength monthLength
  cases isLeapYear year <;> rfl

/-- Every day of a year lies in a month. -/
theorem month_of_ordinal (year : Int) (ordinal months : Nat)
    (inside : ordinal < daysBeforeMonth year (months + 1)) :
    ∃ month, (1 ≤ month ∧ month ≤ months) ∧ daysBeforeMonth year month ≤ ordinal ∧
      ordinal < daysBeforeMonth year month + monthLength year month := by
  induction months with
  | zero => simp [daysBeforeMonth] at inside
  | succ months induction =>
      by_cases earlier : ordinal < daysBeforeMonth year (months + 1)
      · obtain ⟨month, range, started, running⟩ := induction earlier
        exact ⟨month, ⟨range.1, by omega⟩, started, running⟩
      · rw [days_before_next_month year (months + 1) (by omega)] at inside
        exact ⟨months + 1, ⟨by omega, by omega⟩, by omega, inside⟩

/-! ## Days -/

theorem ordinal_lt (d : Date) :
    daysBeforeMonth d.year d.month + d.day - 1 < yearLength d.year := by
  have month := d.month_range
  have day := d.day_range
  have bound := days_before_month_mono d.year (show 1 ≤ d.month + 1 by omega)
    (show d.month + 1 ≤ 13 by omega)
  rw [days_before_next_month d.year d.month month.1, days_before_thirteenth_month] at bound
  omega

theorem year_of_day_number (d : Date) : yearOfDay (d.dayNumber + epochDay) = d.year := by
  have ordinal := d.ordinal_lt
  have day := d.day_range
  apply year_of_day_unique
  · unfold dayNumber
    omega
  · rw [days_before_next_year]
    unfold dayNumber
    omega

/-- The search for a month ends at the month that the day lies in. -/
theorem find_month_some (year : Int) (ordinal month : Nat) :
    ((List.range 12).map (· + 1)).find? (fun month =>
      decide (ordinal < daysBeforeMonth year month + monthLength year month)) = some month ↔
      (1 ≤ month ∧ month ≤ 12) ∧ daysBeforeMonth year month ≤ ordinal ∧
        ordinal < daysBeforeMonth year month + monthLength year month := by
  rw [List.find?_map, Option.map_eq_some_iff]
  simp only [List.find?_range_eq_some, Function.comp_apply, decide_eq_true_eq, List.mem_range,
    Bool.not_eq_true', decide_eq_false_iff_not]
  constructor
  · intro located
    rcases located with ⟨index, ⟨running, small, earlier⟩, rfl⟩
    refine ⟨⟨by omega, by omega⟩, ?_, running⟩
    cases index with
    | zero => simp [daysBeforeMonth]
    | succ index =>
        have past := earlier index (Nat.lt_succ_self index)
        rw [days_before_next_month year (index + 1) (by omega)]
        omega
  · intro placed
    rcases placed with ⟨range, started, running⟩
    refine ⟨month - 1, ⟨?_, by omega, ?_⟩, Nat.sub_add_cancel range.1⟩
    · rw [Nat.sub_add_cancel range.1]
      exact running
    · intro earlier before
      have bound := days_before_month_mono year (show 1 ≤ earlier + 1 + 1 by omega)
        (show earlier + 1 + 1 ≤ month by omega)
      rw [days_before_next_month year (earlier + 1) (by omega)] at bound
      omega

theorem of_parts_some (year : Int) (month day : Nat) (d : Date) :
    ofParts? year month day = some d ↔ d.year = year ∧ d.month = month ∧ d.day = day := by
  unfold ofParts?
  split
  · rename_i valid
    cases d
    simp [eq_comm]
  · rename_i invalid
    constructor
    · intro impossible
      cases impossible
    · intro parts
      rcases parts with ⟨rfl, rfl, rfl⟩
      exact absurd ⟨d.year_range, d.month_range, d.day_range⟩ invalid

theorem of_day_number_some (number : Int) (d : Date) :
    ofDayNumber? number = some d ↔ d.dayNumber = number := by
  constructor
  · intro made
    have spec := year_of_day_spec (number + epochDay)
    unfold ofDayNumber? at made
    dsimp only at made
    split at made
    · rename_i month found
      obtain ⟨year, sameMonth, day⟩ := (of_parts_some _ _ _ d).mp made
      obtain ⟨-, started, -⟩ := (find_month_some _ _ month).mp found
      unfold dayNumber
      rw [year, sameMonth]
      omega
    · cases made
  · intro same
    subst same
    have ordinal := d.ordinal_lt
    have day := d.day_range
    unfold ofDayNumber?
    dsimp only
    rw [year_of_day_number]
    have same : (d.dayNumber + epochDay - daysBeforeYear d.year).toNat =
        daysBeforeMonth d.year d.month + d.day - 1 := by
      unfold dayNumber
      omega
    rw [same, (find_month_some d.year _ d.month).mpr ⟨d.month_range, by omega, by omega⟩]
    dsimp only
    rw [of_parts_some]
    exact ⟨rfl, rfl, by omega⟩

def earliest : Date :=
  ⟨-9999, 1, 1, by decide, by decide, by decide⟩

def latest : Date :=
  ⟨9999, 12, 31, by decide, by decide, by decide⟩

theorem exists_day_number (number : Int) :
    (∃ d : Date, d.dayNumber = number) ↔
      earliest.dayNumber ≤ number ∧ number ≤ latest.dayNumber := by
  have first : earliest.dayNumber = daysBeforeYear (-9999) - epochDay := rfl
  have last : latest.dayNumber = daysBeforeYear (9999 + 1) - 1 - epochDay := rfl
  constructor
  · intro counted
    rcases counted with ⟨d, rfl⟩
    have ordinal := d.ordinal_lt
    have day := d.day_range
    have lower := days_before_year_mono d.year_range.1
    have upper := days_before_year_mono (Int.add_le_add_right d.year_range.2 1)
    rw [days_before_next_year] at upper
    rw [first, last]
    unfold dayNumber
    omega
  · intro range
    rcases range with ⟨lower, upper⟩
    rw [first] at lower
    rw [last] at upper
    have spec := year_of_day_spec (number + epochDay)
    have notBefore : -9999 ≤ yearOfDay (number + epochDay) := by
      apply Int.not_lt.mp
      intro earlier
      have bound := days_before_year_mono
        (show yearOfDay (number + epochDay) + 1 ≤ -9999 by omega)
      omega
    have notAfter : yearOfDay (number + epochDay) ≤ 9999 := by
      apply Int.not_lt.mp
      intro later
      have bound := days_before_year_mono
        (show 9999 + 1 ≤ yearOfDay (number + epochDay) by omega)
      omega
    generalize yearOfDay (number + epochDay) = year at spec notBefore notAfter
    rw [days_before_next_year, ← days_before_thirteenth_month] at spec
    have inside : (number + epochDay - daysBeforeYear year).toNat < daysBeforeMonth year 13 := by
      omega
    obtain ⟨month, range, started, running⟩ := month_of_ordinal year _ 12 inside
    refine ⟨⟨year, month, (number + epochDay - daysBeforeYear year).toNat -
      daysBeforeMonth year month + 1, ⟨notBefore, notAfter⟩, range, by omega⟩, ?_⟩
    unfold dayNumber
    dsimp only
    omega

end Date

namespace TimeOfDay

theorem nanos_lt (t : TimeOfDay) : t.nanos < nanosPerDay := by
  have hour := t.hour_lt
  have minute := t.minute_lt
  have second := t.second_lt
  have nanosecond := t.nanosecond_lt
  unfold nanos nanosPerDay nanosPerSecond
  omega

theorem of_parts_some (hour minute second nanosecond : Nat) (t : TimeOfDay) :
    ofParts? hour minute second nanosecond = some t ↔
      t.hour = hour ∧ t.minute = minute ∧ t.second = second ∧ t.nanosecond = nanosecond := by
  unfold ofParts?
  split
  · rename_i valid
    cases t
    simp [eq_comm]
  · rename_i invalid
    constructor
    · intro impossible
      cases impossible
    · intro parts
      rcases parts with ⟨rfl, rfl, rfl, rfl⟩
      exact absurd ⟨t.hour_lt, t.minute_lt, t.second_lt, t.nanosecond_lt⟩ invalid

theorem of_nanos_some (count : Nat) (t : TimeOfDay) :
    ofNanos? count = some t ↔ t.nanos = count := by
  have hour := t.hour_lt
  have minute := t.minute_lt
  have second := t.second_lt
  have nanosecond := t.nanosecond_lt
  unfold ofNanos? nanos nanosPerSecond
  dsimp only
  rw [of_parts_some]
  constructor
  · intro parts
    rcases parts with ⟨hours, minutes, seconds, nanoseconds⟩
    omega
  · intro same
    refine ⟨?_, ?_, ?_, ?_⟩ <;> omega

theorem exists_nanos (count : Nat) : (∃ t : TimeOfDay, t.nanos = count) ↔ count < nanosPerDay := by
  constructor
  · intro counted
    rcases counted with ⟨t, rfl⟩
    exact t.nanos_lt
  · intro inside
    unfold nanosPerDay nanosPerSecond at inside
    have valid : count / nanosPerSecond / 3600 < 24 ∧ count / nanosPerSecond / 60 % 60 < 60 ∧
        count / nanosPerSecond % 60 < 60 ∧ count % nanosPerSecond < 1000000000 := by
      unfold nanosPerSecond
      omega
    have made : ofNanos? count = some ⟨_, _, _, _, valid.1, valid.2.1, valid.2.2.1, valid.2.2.2⟩ := by
      unfold ofNanos?
      dsimp only
      rw [of_parts_some]
      exact ⟨rfl, rfl, rfl, rfl⟩
    exact ⟨_, (of_nanos_some count _).mp made⟩

def latest : TimeOfDay :=
  ⟨23, 59, 59, 999999999, by decide, by decide, by decide, by decide⟩

end TimeOfDay

namespace DateTime

theorem nanos_div (dt : DateTime) : dt.nanos / TimeOfDay.nanosPerDay = dt.date.dayNumber := by
  have time := dt.time.nanos_lt
  unfold nanos
  rw [Int.add_comm, Int.add_mul_ediv_right _ _ (by decide),
    Int.ediv_eq_zero_of_lt (by omega) (by omega), Int.zero_add]

theorem nanos_mod (dt : DateTime) : dt.nanos % TimeOfDay.nanosPerDay = dt.time.nanos := by
  have time := dt.time.nanos_lt
  unfold nanos
  rw [Int.add_comm, Int.add_mul_emod_self_right, Int.emod_eq_of_lt (by omega) (by omega)]

theorem of_nanos_some (count : Int) (dt : DateTime) : ofNanos? count = some dt ↔ dt.nanos = count := by
  unfold ofNanos?
  constructor
  · intro made
    split at made
    · rename_i date time dateMade timeMade
      cases made
      rw [Date.of_day_number_some] at dateMade
      rw [TimeOfDay.of_nanos_some] at timeMade
      have positive := Int.emod_nonneg count (show (TimeOfDay.nanosPerDay : Int) ≠ 0 by decide)
      have split := Int.mul_ediv_add_emod count TimeOfDay.nanosPerDay
      unfold nanos
      rw [dateMade, timeMade, Int.toNat_of_nonneg positive, Int.mul_comm]
      exact split
    · cases made
  · intro same
    subst same
    rw [nanos_div, nanos_mod, (Date.of_day_number_some _ dt.date).mpr rfl, Int.toNat_natCast,
      (TimeOfDay.of_nanos_some _ dt.time).mpr rfl]

def earliest : DateTime := ⟨Date.earliest, TimeOfDay.midnight⟩

def latest : DateTime := ⟨Date.latest, TimeOfDay.latest⟩

/-- The clock shows every instant between the first and the last, and no other. -/
theorem exists_nanos (count : Int) :
    (∃ dt : DateTime, dt.nanos = count) ↔ earliest.nanos ≤ count ∧ count ≤ latest.nanos := by
  have first : earliest.nanos = Date.earliest.dayNumber * TimeOfDay.nanosPerDay := by decide
  have last : latest.nanos =
      Date.latest.dayNumber * TimeOfDay.nanosPerDay + (TimeOfDay.nanosPerDay - 1) := by decide
  have day : (TimeOfDay.nanosPerDay : Int) = 86400000000000 := by decide
  rw [first, last]
  constructor
  · intro counted
    rcases counted with ⟨dt, rfl⟩
    have range := (Date.exists_day_number _).mp ⟨dt.date, rfl⟩
    have time : dt.time.nanos < 86400000000000 := dt.time.nanos_lt
    unfold nanos
    rw [day]
    omega
  · rw [day]
    intro range
    rcases range with ⟨lower, upper⟩
    obtain ⟨date, sameDate⟩ := (Date.exists_day_number (count / 86400000000000)).mpr (by omega)
    have inside : (count % 86400000000000).toNat < TimeOfDay.nanosPerDay := by
      change _ < 86400000000000
      omega
    obtain ⟨time, sameTime⟩ := (TimeOfDay.exists_nanos _).mpr inside
    refine ⟨⟨date, time⟩, ?_⟩
    unfold nanos
    rw [sameDate, sameTime, day]
    omega

end DateTime

namespace Timestamp

/-- The clock at Greenwich shows a year outside the calendar at that instant. -/
def LeavesCalendar (ts : Timestamp) : Prop :=
  ts.instant < DateTime.earliest.nanos ∨ DateTime.latest.nanos < ts.instant

theorem utc_civil_some (ts : Timestamp) (dt : DateTime) :
    ts.utcCivil? = some dt ↔ dt.nanos = ts.instant :=
  DateTime.of_nanos_some ts.instant dt

theorem instant_at_utc (dt : DateTime) : (atUtc dt).instant = dt.nanos := by
  rw [instant, atUtc, Int.zero_mul, Int.sub_zero]

theorem utc_civil_at_utc (dt : DateTime) : (atUtc dt).utcCivil? = some dt :=
  ((atUtc dt).utc_civil_some dt).mpr (instant_at_utc dt).symm

theorem utc_civil_none (ts : Timestamp) : ts.utcCivil? = none ↔ ts.LeavesCalendar := by
  have range := DateTime.exists_nanos ts.instant
  simp only [← utc_civil_some] at range
  rw [← Option.isSome_iff_exists] at range
  unfold LeavesCalendar
  rw [← Option.not_isSome_iff_eq_none, range]
  omega

end Timestamp

end QueryCheck

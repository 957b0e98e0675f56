import QueryCheck.Proofs.Calendar
import QueryCheck.Proofs.CalendarText
import QueryCheck.Proofs.Number.Digits
import QueryCheck.Warehouse.QueryRequest

/-!
# Written dates and clocks

The readers take back what is written: a date is read as it was, and a clock that is written to the
microsecond is read without the digits below it, for the years before zero as for all others.
-/

namespace QueryCheck

set_option autoImplicit false

namespace TimeOfDay

/-- The clock without the digits below the microsecond -/
def toMicros (t : TimeOfDay) : TimeOfDay :=
  { t with
    nanosecond := t.nanosecond / 1000 * 1000
    nanosecond_lt := (Nat.div_mul_le_self _ _).trans_lt t.nanosecond_lt }

end TimeOfDay

namespace DateTime

def toMicros (dt : DateTime) : DateTime :=
  { dt with time := dt.time.toMicros }

theorem nanos_to_micros (dt : DateTime) : dt.toMicros.nanos = dt.nanos / 1000 * 1000 := by
  simp only [nanos, toMicros, TimeOfDay.nanos, TimeOfDay.toMicros, TimeOfDay.nanosPerDay,
    TimeOfDay.nanosPerSecond]
  omega

end DateTime

namespace Calendar

open Text (Reader)

/-! ## Parts -/

theorem digits_padded {count n : Nat} (positive : 0 < count) (small : n < 10 ^ count) (rest : List Char) :
    digits count (paddedText count n ++ rest) = some (n, rest) := by
  have length := padded_length positive small
  rw [digits, List.take_left' length, List.drop_left' length]
  rw [if_pos ⟨length, List.all_eq_true.mpr (padded_digits count n)⟩, of_digits_padded]

theorem literal_read (c : Char) (rest : List Char) : literal c (c :: rest) = some ((), rest) :=
  if_pos rfl

theorem sign_of_digit {c : Char} (digit : c.isDigit = true) (rest : List Char) : sign (c :: rest) = none := by
  rw [sign]
  all_goals
    rintro _ ⟨⟩
    cases digit

theorem padded_head {count : Nat} (positive : 0 < count) {n : Nat} (small : n < 10 ^ count)
    (rest : List Char) : ∃ c more, paddedText count n ++ rest = c :: more ∧ c.isDigit = true := by
  have length := padded_length positive small
  cases text : paddedText count n with
  | nil =>
      rw [text] at length
      exact absurd length positive.ne
  | cons c more =>
      exact ⟨c, more ++ rest, rfl, padded_digits count n c (by rw [text]; exact List.mem_cons_self)⟩

/-- The year with its sign, if it has one -/
def yearText (year : Int) : List Char :=
  (if year < 0 then ['-'] else []) ++ paddedText 4 year.natAbs

theorem signed_year_read {year : Int} (range : -9999 ≤ year ∧ year ≤ 9999) (rest : List Char) :
    signedYear (yearText year ++ rest) = some (year, rest) := by
  have small : year.natAbs < 10 ^ 4 := by omega
  have read := digits_padded (by decide) small rest
  rw [yearText, signedYear]
  by_cases before : year < 0
  · rw [if_pos before]
    change (digits 4 (paddedText 4 year.natAbs ++ rest)).map _ = _
    rw [read]
    change some (-(year.natAbs : Int), rest) = _
    rw [Int.ofNat_natAbs_of_nonpos before.le, neg_neg]
  · rw [if_neg before, List.nil_append]
    obtain ⟨c, more, head, digit⟩ := padded_head (by decide) small rest
    rw [head, sign_of_digit digit, ← head]
    dsimp only
    rw [read]
    change some ((year.natAbs : Int), rest) = _
    rw [Int.natAbs_of_nonneg (not_lt.mp before)]

/-! ## Dates -/

theorem date_parts_read {readYear : Reader Int} {text : List Char} {year : Int} {month day : Nat}
    (yearRead : ∀ rest, readYear (text ++ rest) = some (year, rest)) (months : month < 10 ^ 2)
    (days : day < 10 ^ 2) (rest : List Char) :
    dateParts readYear (text ++ '-' :: (paddedText 2 month ++ '-' :: (paddedText 2 day ++ rest))) =
      some ((year, month, day), rest) := by
  have readMonth := digits_padded (by decide : 0 < 2) months
  have readDay := digits_padded (by decide : 0 < 2) days
  simp only [dateParts, Option.bind_eq_bind, yearRead, Option.bind_some, literal_read, readMonth, readDay]

theorem date_text (d : Date) :
    d.text = yearText d.year ++ '-' :: (paddedText 2 d.month ++ '-' :: paddedText 2 d.day) := by
  rw [Date.text, yearText, List.append_assoc, List.cons_append]

theorem date_and_rest (d : Date) (rest : List Char) :
    d.text ++ rest =
      yearText d.year ++ '-' :: (paddedText 2 d.month ++ '-' :: (paddedText 2 d.day ++ rest)) := by
  rw [date_text, List.append_assoc, List.cons_append, List.append_assoc, List.cons_append]

theorem month_length_le (year : Int) (month : Nat) : monthLength year month ≤ 31 := by
  unfold monthLength
  split_ifs <;> decide

theorem parts_small (d : Date) : d.month < 10 ^ 2 ∧ d.day < 10 ^ 2 := by
  have month := d.month_range
  have day := d.day_range
  have length := month_length_le d.year d.month
  omega

theorem date_read (d : Date) (rest : List Char) : date (d.text ++ rest) = some (d, rest) := by
  have parts := date_parts_read (signed_year_read d.year_range) (parts_small d).1 (parts_small d).2 rest
  have made := (Date.of_parts_some d.year d.month d.day d).mpr ⟨rfl, rfl, rfl⟩
  simp only [date_and_rest, date, parts, Option.bind_eq_bind, Option.bind_some, made]

/-! ## Clocks -/

theorem clock_parts_read (t : TimeOfDay) (rest : List Char) :
    clockParts (t.paddedClock ++ rest) = some ((t.hour, t.minute, t.second), rest) := by
  have hour := t.hour_lt
  have minute := t.minute_lt
  have second := t.second_lt
  have readHour := digits_padded (by decide : 0 < 2) (by omega : t.hour < 10 ^ 2)
  have readMinute := digits_padded (by decide : 0 < 2) (by omega : t.minute < 10 ^ 2)
  have readSecond := digits_padded (by decide : 0 < 2) (by omega : t.second < 10 ^ 2)
  simp only [clockParts, TimeOfDay.paddedClock, List.append_assoc, List.cons_append, Option.bind_eq_bind,
    readHour, Option.bind_some, literal_read, readMinute, readSecond]

theorem fraction_digits_read {written rest : List Char} (digits : ∀ c ∈ written, c.isDigit = true)
    (filled : written ≠ []) (stops : ∀ c, rest.head? = some c → c.isDigit = false) :
    fraction ('.' :: (written ++ rest)) = some (fractionNanos written, rest) := by
  rw [fraction, span_digits_append _ rest digits stops]
  dsimp only
  rw [if_neg (by rwa [List.isEmpty_iff])]

theorem fraction_read {nanos : Nat} (small : nanos < 1000000000) (rest : List Char)
    (stops : ∀ c, rest.head? = some c → c.isDigit = false) :
    fraction ('.' :: (paddedText 6 (nanos / 1000) ++ rest)) = some (nanos / 1000 * 1000, rest) := by
  have micros : nanos / 1000 < 10 ^ 6 := by omega
  have length := padded_length (by decide) micros
  have nine : (paddedText 6 (nanos / 1000)).take 9 = paddedText 6 (nanos / 1000) :=
    List.take_of_length_le (by rw [length]; decide)
  have value : fractionNanos (paddedText 6 (nanos / 1000)) = nanos / 1000 * 1000 := by
    rw [fractionNanos, nine, length, of_digits_padded]
  have filled : paddedText 6 (nanos / 1000) ≠ [] := by
    rw [← List.length_pos_iff, length]
    decide
  rw [fraction_digits_read (padded_digits 6 _) filled stops, value]

theorem time_read (t : TimeOfDay) (rest : List Char)
    (stops : ∀ c, rest.head? = some c → c.isDigit = false) :
    timeOfDay (t.paddedClock ++ '.' :: (paddedText 6 (t.nanosecond / 1000) ++ rest)) =
      some (t.toMicros, rest) := by
  have made := (TimeOfDay.of_parts_some t.hour t.minute t.second (t.nanosecond / 1000 * 1000) t.toMicros).mpr
    ⟨rfl, rfl, rfl, rfl⟩
  simp only [timeOfDay, clock_parts_read, fractionIfAny, fraction_read t.nanosecond_lt rest stops,
    Option.bind_eq_bind, Option.bind_some, Option.getD_some, made]

theorem clock_text (dt : DateTime) (rest : List Char) :
    Warehouse.clockText dt ++ rest = dt.date.text ++ ' ' :: (dt.time.paddedClock ++
      '.' :: (paddedText 6 (dt.time.nanosecond / 1000) ++ rest)) := by
  rw [Warehouse.clockText, List.append_assoc, List.append_assoc, List.cons_append, List.cons_append]

/-- A date-time that is written for the warehouse is read back to the microsecond. -/
theorem date_time_read (dt : DateTime) (rest : List Char)
    (stops : ∀ c, rest.head? = some c → c.isDigit = false) :
    dateTime ' ' (Warehouse.clockText dt ++ rest) = some (dt.toMicros, rest) := by
  rw [clock_text]
  simp only [dateTime, date_read, literal_read, time_read dt.time rest stops, Option.bind_eq_bind,
    Option.bind_some]
  rfl

/-! ## Ends of texts -/

theorem drop_while_none {p : Char → Bool} {text : List Char}
    (first : ∀ c, text.head? = some c → p c = false) : text.dropWhile p = text := by
  cases text with
  | nil => rfl
  | cons c rest => exact List.dropWhile_cons_of_neg (by rw [first c rfl]; decide)

theorem trim_visible {text : List Char} (first : ∀ c, text.head? = some c → Text.isWhitespace c = false)
    (last : ∀ c, text.getLast? = some c → Text.isWhitespace c = false) : Text.trim text = text := by
  rw [List.getLast?_eq_head?_reverse] at last
  rw [Text.trim, Text.trimStart, drop_while_none first, Text.trimEnd, drop_while_none last,
    List.reverse_reverse]

theorem trim_of_ends {text : List Char} (first : ∀ c, text.head? = some c → Text.isWhitespace c = false)
    (ends : EndsInDigit text) : Text.trim text = text := by
  obtain ⟨last, same, digit⟩ := ends
  refine trim_visible first fun c found => ?_
  rw [same] at found
  cases found
  exact digit_not_blank digit

theorem year_text_before {year : Int} (before : year < 0) :
    yearText year = '-' :: paddedText 4 year.natAbs := by
  rw [yearText, if_pos before, List.singleton_append]

theorem year_text_after {year : Int} (after : 0 ≤ year) : yearText year = paddedText 4 year.natAbs := by
  rw [yearText, if_neg (not_lt.mpr after), List.nil_append]

theorem date_text_first (d : Date) (rest : List Char) :
    ∀ c, (d.text ++ rest).head? = some c → Text.isWhitespace c = false := by
  intro c head
  rw [date_text, List.append_assoc] at head
  rcases lt_or_ge d.year 0 with before | after
  · rw [year_text_before before] at head
    cases head
    rfl
  · have range := d.year_range
    obtain ⟨digit, more, text, isDigit⟩ := padded_head (by decide : 0 < 4)
      (by omega : d.year.natAbs < 10 ^ 4) ('-' :: (paddedText 2 d.month ++ '-' :: paddedText 2 d.day) ++ rest)
    rw [year_text_after after, text] at head
    cases head
    exact digit_not_blank isDigit

theorem padded_end {count n : Nat} (positive : 0 < count) (small : n < 10 ^ count) :
    EndsInDigit (paddedText count n) := by
  have read := digits_padded positive small []
  rw [List.append_nil] at read
  exact digits_end positive read

theorem date_text_end (d : Date) : EndsInDigit d.text := by
  refine ends_in_digit_of_suffix ?_ (padded_end (by decide) (parts_small d).2)
  rw [date_text]
  exact ⟨yearText d.year ++ '-' :: (paddedText 2 d.month ++ ['-']), by simp⟩

theorem clock_text_end (dt : DateTime) : EndsInDigit (Warehouse.clockText dt) := by
  have read := date_time_read dt [] nofun
  rw [List.append_nil] at read
  exact date_time_end (by rw [read]; rfl)

theorem clock_text_first (dt : DateTime) (rest : List Char) :
    ∀ c, (Warehouse.clockText dt ++ rest).head? = some c → Text.isWhitespace c = false := by
  rw [clock_text]
  exact date_text_first dt.date _

/-! ## Whole texts -/

theorem read_date_text (d : Date) : readDate? d.text = some d := by
  have read := date_read d []
  have first := date_text_first d []
  rw [List.append_nil] at read first
  rw [readDate?, trim_of_ends first (date_text_end d), read]
  rfl

theorem read_clock_text (dt : DateTime) : readDateTime? (Warehouse.clockText dt) = some dt.toMicros := by
  have read := date_time_read dt [] nofun
  have first := clock_text_first dt []
  rw [List.append_nil] at read first
  rw [readDateTime?, trim_of_ends first (clock_text_end dt), read]
  rfl

theorem plain_year_read {year : Int} (range : 0 ≤ year ∧ year ≤ 9999) (rest : List Char) :
    plainYear (yearText year ++ rest) = some (year, rest) := by
  have read := digits_padded (by decide) (by omega : year.natAbs < 10 ^ 4) rest
  rw [year_text_after range.1, plainYear, read]
  change some ((year.natAbs : Int), rest) = _
  rw [Int.natAbs_of_nonneg range.1]

theorem plain_year_refused {year : Int} (before : year < 0) (rest : List Char) :
    plainYear (yearText year ++ rest) = none := by
  have refused : digits 4 (yearText year ++ rest) = none := by
    rw [year_text_before before]
    exact if_neg fun taken => Bool.false_ne_true taken.2
  rw [plainYear, refused]
  rfl

/-- The fraction of the internet form, which must be one where there is a point -/
def fractionAtPoint : Reader Nat := fun text =>
  match text with
  | '.' :: _ => fraction text
  | _ => some (0, text)

/-- A date and a padded clock are read in the internet form with what stands behind them. -/
theorem internet_parts_read {dt civil : DateTime} {mark : Char} {behind left : List Char} {nanos : Nat}
    {shift : Int} (year : 0 ≤ dt.date.year) (single : mark.toNat < 128)
    (fractionRead : fractionAtPoint behind = some (nanos, left))
    (offsetRead : atEnd (internetOffset left) = some shift) (sameDate : civil.date = dt.date)
    (sameTime : TimeOfDay.ofParts? dt.time.hour dt.time.minute dt.time.second nanos = some civil.time) :
    internetTimestamp? (dt.date.text ++ mark :: (dt.time.paddedClock ++ behind)) =
      some ⟨civil, shift⟩ := by
  have date := date_parts_read (plain_year_read ⟨year, dt.date.year_range.2⟩) (parts_small dt.date).1
    (parts_small dt.date).2
  have made := (Date.of_parts_some dt.date.year dt.date.month dt.date.day civil.date).mpr (by rw [sameDate]; simp)
  have marked : separator (mark :: (dt.time.paddedClock ++ behind)) = some ((), _) := if_pos single
  have second : dt.time.second ≠ 60 := dt.time.second_lt.ne
  rw [date_and_rest, internetTimestamp?]
  change (dateParts plainYear _).bind _ = _
  rw [date, Option.bind_some]
  change (separator _).bind _ = _
  rw [marked, Option.bind_some]
  change (clockParts _).bind _ = _
  rw [clock_parts_read, Option.bind_some]
  unfold fractionAtPoint at fractionRead
  dsimp only
  split at fractionRead
  case h_1 =>
    change (fraction _).bind _ = _
    rw [fractionRead, Option.bind_some, offsetRead]
    change (Date.ofParts? _ _ _).bind _ = _
    rw [made, Option.bind_some, if_neg second, sameTime]
    rfl
  case h_2 =>
    cases fractionRead
    simp only [Option.bind_eq_bind, Option.bind_some, offsetRead, made, if_neg second, sameTime]

theorem internet_read {dt : DateTime} (year : 0 ≤ dt.date.year) :
    internetTimestamp? (Warehouse.clockText dt ++ "+00:00".toList) = some (.atUtc dt.toMicros) := by
  have stops : ∀ c, "+00:00".toList.head? = some c → c.isDigit = false := by
    rintro _ ⟨⟩
    rfl
  rw [clock_text]
  exact internet_parts_read year (by decide) (fraction_read dt.time.nanosecond_lt _ stops) (by decide) rfl
    ((TimeOfDay.of_parts_some dt.time.hour dt.time.minute dt.time.second
      (dt.time.nanosecond / 1000 * 1000) dt.time.toMicros).mpr ⟨rfl, rfl, rfl, rfl⟩)

theorem internet_refused {dt : DateTime} (year : dt.date.year < 0) (rest : List Char) :
    internetTimestamp? (Warehouse.clockText dt ++ rest) = none := by
  rw [clock_text, date_and_rest, internetTimestamp?]
  change (dateParts plainYear _).bind _ = _
  rw [dateParts, plain_year_refused year]
  rfl

theorem offset_read (dt : DateTime) :
    offsetTimestamp? (Warehouse.clockText dt ++ "+00:00".toList) = some (.atUtc dt.toMicros) := by
  have stops : ∀ c, "+00:00".toList.head? = some c → c.isDigit = false := by
    rintro _ ⟨⟩
    rfl
  rw [offsetTimestamp?, date_time_read dt _ stops]
  rfl

/-- Years of the internet form are read by it, and years before zero by the form with an offset. -/
theorem read_utc_text (dt : DateTime) :
    readTimestamp? (Warehouse.clockText dt ++ "+00:00".toList) = some (.atUtc dt.toMicros) := by
  have ends : EndsInDigit (Warehouse.clockText dt ++ "+00:00".toList) :=
    ends_in_digit_of_suffix (List.suffix_append _ _) ⟨'0', rfl, rfl⟩
  rw [readTimestamp?, trim_of_ends (clock_text_first dt _) ends, drop_utc_of_digit ends]
  rcases lt_or_ge dt.date.year 0 with before | after
  · rw [internet_refused before, offset_read]
    rfl
  · rw [internet_read after]
    rfl

end Calendar

end QueryCheck

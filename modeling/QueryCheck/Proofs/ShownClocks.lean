import QueryCheck.Proofs.WrittenClocks

/-!
# Clocks as readers see them

A clock is shown with all the digits of its fraction that count and without a zero in front of its hour.
So a shown clock is read back when its hour has two digits, and refused when it has one. The internet form
pads its hours, and every timestamp that has one is read back; the form for all others is refused.
-/

namespace QueryCheck

set_option autoImplicit false

namespace TimeOfDay

/-! ## Fractions -/

/-- The digits behind the point of a shown clock -/
def shownFraction (t : TimeOfDay) : List Char :=
  if t.nanosecond = 0 then ['0'] else t.fractionDigits

theorem text_shown (t : TimeOfDay) (rest : List Char) :
    t.text ++ rest = natText t.hour ++ ':' :: (paddedText 2 t.minute ++ ':' :: (paddedText 2 t.second ++
      '.' :: (t.shownFraction ++ rest))) := by
  simp only [text, shownFraction, List.append_assoc, List.cons_append]

/-- The digits without the zeros at their end, and these zeros -/
theorem dropped_zeros (digits : List Char) :
    ∃ count, digits = (digits.reverse.dropWhile (· == '0')).reverse ++ List.replicate count '0' := by
  have zeros : digits.reverse.takeWhile (· == '0') =
      List.replicate (digits.reverse.takeWhile (· == '0')).length '0' := by
    rw [List.eq_replicate_iff]
    exact ⟨rfl, fun c member => beq_iff_eq.mp (List.mem_takeWhile_imp (p := (· == '0')) member)⟩
  refine ⟨(digits.reverse.takeWhile (· == '0')).length, ?_⟩
  have split := congrArg List.reverse (List.takeWhile_append_dropWhile (p := (· == '0')) (l := digits.reverse))
  rw [List.reverse_append, List.reverse_reverse, zeros, List.reverse_replicate] at split
  exact split.symm

theorem fraction_nanos_of_fraction_digits (t : TimeOfDay) :
    Calendar.fractionNanos t.fractionDigits = t.nanosecond := by
  obtain ⟨count, split⟩ := dropped_zeros (paddedText 9 t.nanosecond)
  change _ = t.fractionDigits ++ _ at split
  have length := padded_length (by decide : 0 < 9) t.nanosecond_lt
  have value := of_digits_padded 9 t.nanosecond
  rw [split, List.length_append, List.length_replicate] at length
  rw [split, of_digits_append, of_digits_zeros, List.length_replicate, Nat.add_zero] at value
  rw [Calendar.fractionNanos, List.take_of_length_le (by omega), ← length, Nat.add_sub_cancel_left]
  exact value

theorem fraction_digits_ne_nil {t : TimeOfDay} (some : t.nanosecond ≠ 0) : t.fractionDigits ≠ [] := by
  intro none
  have value := t.fraction_nanos_of_fraction_digits
  rw [none] at value
  exact some value.symm

theorem fraction_digits_digits (t : TimeOfDay) : ∀ c ∈ t.fractionDigits, c.isDigit = true := by
  intro c member
  have kept := (List.dropWhile_sublist (· == '0')).subset (List.mem_reverse.mp member)
  exact padded_digits 9 t.nanosecond c (List.mem_reverse.mp kept)

theorem shown_fraction_digits (t : TimeOfDay) : ∀ c ∈ t.shownFraction, c.isDigit = true := by
  unfold shownFraction
  split
  · exact List.forall_mem_singleton.mpr rfl
  · exact t.fraction_digits_digits

theorem shown_fraction_ne_nil (t : TimeOfDay) : t.shownFraction ≠ [] := by
  unfold shownFraction
  split
  · decide
  · exact fraction_digits_ne_nil ‹_›

theorem fraction_nanos_of_shown_fraction (t : TimeOfDay) :
    Calendar.fractionNanos t.shownFraction = t.nanosecond := by
  unfold shownFraction
  split
  · rename_i none
    rw [none]
    rfl
  · exact t.fraction_nanos_of_fraction_digits

end TimeOfDay

namespace Calendar

/-! ## Times of day -/

theorem shown_fraction_read (t : TimeOfDay) (rest : List Char)
    (stops : ∀ c, rest.head? = some c → c.isDigit = false) :
    fraction ('.' :: (t.shownFraction ++ rest)) = some (t.nanosecond, rest) := by
  rw [fraction_digits_read t.shown_fraction_digits t.shown_fraction_ne_nil stops,
    t.fraction_nanos_of_shown_fraction]

theorem nat_text_two {n : Nat} (two : 10 ≤ n) (small : n < 100) : natText n = paddedText 2 n := by
  have long : ¬(natText n).length ≤ 1 := by
    rw [natText, Nat.length_toDigits_le_iff (by decide) (by decide)]
    omega
  rw [paddedText, show 2 - (natText n).length = 0 by omega]
  rfl

theorem nat_text_one {n : Nat} (one : n < 10) : natText n = [n.digitChar] :=
  Nat.toDigits_of_lt_base one

/-- The hour of a shown clock is read when it has two digits. -/
theorem clock_parts_shown (t : TimeOfDay) (rest : List Char) :
    clockParts (t.text ++ rest) =
      if 10 ≤ t.hour then some ((t.hour, t.minute, t.second), '.' :: (t.shownFraction ++ rest)) else none := by
  rw [t.text_shown]
  have hours := t.hour_lt
  split
  · rename_i two
    have read := clock_parts_read t ('.' :: (t.shownFraction ++ rest))
    rw [TimeOfDay.paddedClock, List.append_assoc, List.append_assoc, List.cons_append, List.cons_append] at read
    rw [nat_text_two two (by omega)]
    exact read
  · rename_i one
    have refused : digits 2 ([t.hour.digitChar] ++ ':' :: (paddedText 2 t.minute ++ ':' ::
        (paddedText 2 t.second ++ '.' :: (t.shownFraction ++ rest)))) = none := by
      refine if_neg fun taken => ?_
      simp at taken
    rw [nat_text_one (by omega), clockParts, refused]
    rfl

theorem time_of_day_shown (t : TimeOfDay) (rest : List Char)
    (stops : ∀ c, rest.head? = some c → c.isDigit = false) :
    timeOfDay (t.text ++ rest) = if 10 ≤ t.hour then some (t, rest) else none := by
  rw [timeOfDay, clock_parts_shown]
  split
  · have made := (TimeOfDay.of_parts_some t.hour t.minute t.second t.nanosecond t).mpr ⟨rfl, rfl, rfl, rfl⟩
    simp only [Option.bind_eq_bind, Option.bind_some, fractionIfAny, shown_fraction_read t rest stops,
      Option.getD_some, made]
  · rfl

theorem time_text_first (t : TimeOfDay) :
    ∀ c, t.text.head? = some c → Text.isWhitespace c = false := by
  intro c head
  have text := t.text_shown []
  rw [List.append_nil] at text
  cases hour : natText t.hour with
  | nil => exact absurd hour Nat.toDigits_ne_nil
  | cons digit more =>
      rw [text, hour] at head
      cases head
      exact digit_not_blank (nat_text_digits t.hour c (by rw [hour]; exact List.mem_cons_self))

theorem time_text_end (t : TimeOfDay) : EndsInDigit t.text := by
  have text := t.text_shown []
  rw [List.append_nil, List.append_nil] at text
  refine ends_in_digit_of_suffix ?_
    (ends_in_digit_of_all t.shown_fraction_ne_nil (List.all_eq_true.mpr t.shown_fraction_digits))
  rw [text]
  exact ⟨natText t.hour ++ ':' :: (paddedText 2 t.minute ++ ':' :: (paddedText 2 t.second ++ ['.'])), by simp⟩

/-- A time of day is read back as it is shown when its hour has two digits. -/
theorem read_shown_time (t : TimeOfDay) :
    readTimeOfDay? t.text = if 10 ≤ t.hour then some t else none := by
  have read := time_of_day_shown t [] nofun
  rw [List.append_nil] at read
  rw [readTimeOfDay?, trim_of_ends (time_text_first t) (time_text_end t), read]
  split <;> rfl

/-! ## Date-times -/

theorem date_time_shown (dt : DateTime) (mark : Char) (rest : List Char)
    (stops : ∀ c, rest.head? = some c → c.isDigit = false) :
    dateTime mark (dt.date.text ++ mark :: (dt.time.text ++ rest)) =
      if 10 ≤ dt.time.hour then some (dt, rest) else none := by
  simp only [dateTime, date_read, literal_read, time_of_day_shown dt.time rest stops, Option.bind_eq_bind,
    Option.bind_some]
  split <;> rfl

theorem date_time_other_mark (d : Date) {mark other : Char} (differ : mark ≠ other) (rest : List Char) :
    dateTime other (d.text ++ mark :: rest) = none := by
  simp only [dateTime, date_read, literal, if_neg differ, Option.bind_eq_bind, Option.bind_some,
    Option.bind_none]

/-- A date-time is read back as it is shown when its hour has two digits. -/
theorem read_shown_date_time (dt : DateTime) :
    readDateTime? dt.text = if 10 ≤ dt.time.hour then some dt else none := by
  have read := date_time_shown dt 'T' [] nofun
  have ends : EndsInDigit dt.text :=
    ends_in_digit_of_suffix ⟨dt.date.text ++ ['T'], by simp [DateTime.text]⟩ (time_text_end dt.time)
  rw [List.append_nil] at read
  have trimmed : Text.trim dt.text = dt.text := trim_of_ends (date_text_first dt.date _) ends
  rw [readDateTime?, trimmed]
  change ((atEnd (dateTime ' ' (dt.date.text ++ 'T' :: dt.time.text))).orElse fun _ =>
    atEnd (dateTime 'T' (dt.date.text ++ 'T' :: dt.time.text))) = _
  rw [date_time_other_mark dt.date (by decide), read]
  split <;> rfl

/-! ## Timestamps -/

theorem sign_text_read {shift : Int} (rest : List Char) :
    sign ((if shift < 0 then '-' else '+') :: rest) = some (decide (shift < 0), rest) := by
  split <;> simp [sign, *]

/-- An offset is read back from the hours and minutes that it is shown as. -/
theorem offset_text_read {ts : Timestamp} {maxHours : Nat} (inside : ts.offset.natAbs / 60 ≤ maxHours)
    (small : maxHours < 100) : offset maxHours ts.offsetText = some (ts.offset, []) := by
  have readHours := digits_padded (by decide : 0 < 2) (by omega : ts.offset.natAbs / 60 < 10 ^ 2)
  have readMinutes := digits_padded (by decide : 0 < 2) (by omega : ts.offset.natAbs % 60 < 10 ^ 2) []
  have minutes : ts.offset.natAbs % 60 < 60 := Nat.mod_lt _ (by decide)
  rw [List.append_nil] at readMinutes
  rw [Timestamp.offsetText, offset]
  simp only [List.cons_append, sign_text_read, Option.bind_eq_bind, Option.bind_some, readHours, literal_read,
    readMinutes]
  rw [if_pos ⟨inside, minutes⟩]
  by_cases behind : ts.offset < 0
  · rw [decide_eq_true behind, if_pos rfl]
    congr 2
    omega
  · rw [decide_eq_false behind, if_neg Bool.false_ne_true]
    congr 2
    omega

/-- The offset of the internet form -/
def zoneText (ts : Timestamp) : List Char :=
  if ts.offset = 0 then ['Z'] else ts.offsetText

theorem zone_text_head (ts : Timestamp) :
    ∃ c rest, zoneText ts = c :: rest ∧ (c = 'Z' ∨ c = '-' ∨ c = '+') := by
  unfold zoneText Timestamp.offsetText
  split
  · exact ⟨_, _, rfl, .inl rfl⟩
  · split
    · exact ⟨_, _, rfl, .inr (.inl rfl)⟩
    · exact ⟨_, _, rfl, .inr (.inr rfl)⟩

theorem zone_text_read {ts : Timestamp} (inside : ts.offset.natAbs / 60 ≤ 23) :
    internetOffset (zoneText ts) = some (ts.offset, []) := by
  have read := offset_text_read inside (by decide)
  unfold zoneText
  by_cases greenwich : ts.offset = 0
  · rw [if_pos greenwich, greenwich]
    rfl
  · rw [if_neg greenwich, ← read]
    unfold Timestamp.offsetText
    split <;> rfl

theorem fraction_at_point_shown (t : TimeOfDay) {rest : List Char}
    (stops : ∀ c, rest.head? = some c → c.isDigit = false) (plain : rest.head? ≠ some '.') :
    fractionAtPoint ((if t.nanosecond = 0 then [] else '.' :: t.fractionDigits) ++ rest) =
      some (t.nanosecond, rest) := by
  by_cases none : t.nanosecond = 0
  · rw [if_pos none, none, List.nil_append]
    unfold fractionAtPoint
    split
    · exact absurd rfl plain
    · rfl
  · have shown : t.shownFraction = t.fractionDigits := if_neg none
    have read := shown_fraction_read t rest stops
    rw [if_neg none, ← shown]
    exact read

theorem internet_text_parts (ts : Timestamp) :
    ts.internetText = ts.civil.date.text ++ 'T' :: (ts.civil.time.paddedClock ++
      ((if ts.civil.time.nanosecond = 0 then [] else '.' :: ts.civil.time.fractionDigits) ++ zoneText ts)) := by
  simp only [Timestamp.internetText, zoneText, List.append_assoc, List.cons_append]

theorem internet_text_read {ts : Timestamp} (form : ts.hasInternetForm = true) :
    internetTimestamp? ts.internetText = some ts := by
  rw [Timestamp.hasInternetForm, Bool.and_eq_true, decide_eq_true_iff, decide_eq_true_iff] at form
  obtain ⟨first, others, head, visible⟩ := zone_text_head ts
  have stops : ∀ c, (zoneText ts).head? = some c → c.isDigit = false := by
    rw [head]
    rintro _ ⟨⟩
    rcases visible with rfl | rfl | rfl <;> rfl
  have plain : (zoneText ts).head? ≠ some '.' := by
    rw [head]
    rcases visible with rfl | rfl | rfl <;> simp
  have fraction := fraction_at_point_shown ts.civil.time stops plain
  have zone : atEnd (internetOffset (zoneText ts)) = some ts.offset := by
    rw [zone_text_read form.2]
    rfl
  rw [internet_text_parts]
  exact internet_parts_read form.1 (by decide) fraction zone rfl
    ((TimeOfDay.of_parts_some _ _ _ _ ts.civil.time).mpr ⟨rfl, rfl, rfl, rfl⟩)

theorem internet_text_first (ts : Timestamp) :
    ∀ c, ts.internetText.head? = some c → Text.isWhitespace c = false := by
  rw [internet_text_parts]
  exact date_text_first ts.civil.date _

theorem internet_text_last (ts : Timestamp) :
    ∀ c, ts.internetText.getLast? = some c → Text.isWhitespace c = false := by
  intro c last
  have zone : ∃ c, (zoneText ts).getLast? = some c ∧ Text.isWhitespace c = false := by
    unfold zoneText
    split
    · exact ⟨'Z', rfl, rfl⟩
    · obtain ⟨digit, found, isDigit⟩ := padded_end (by decide : 0 < 2)
        (by omega : ts.offset.natAbs % 60 < 10 ^ 2)
      refine ⟨digit, ?_, digit_not_blank isDigit⟩
      rw [Timestamp.offsetText, List.getLast?_append, List.getLast?_cons, found]
      rfl
  obtain ⟨visible, found, same⟩ := zone
  rw [Timestamp.internetText, List.getLast?_append] at last
  change ((zoneText ts).getLast?.or _) = _ at last
  rw [found] at last
  cases last
  exact same

/-- The form of timestamps that have no internet form -/
def plainText (ts : Timestamp) : List Char :=
  ts.civil.date.text ++ ' ' :: (ts.civil.time.text ++ ' ' :: (ts.offsetText ++ [':', '0', '0']))

section plain

variable (ts : Timestamp)

theorem no_digit_behind_blank (rest : List Char) : ∀ c, (' ' :: rest).head? = some c → c.isDigit = false := by
  rintro _ ⟨⟩
  rfl

theorem plain_text_no_internet : internetTimestamp? (plainText ts) = none := by
  rw [plainText, date_and_rest, internetTimestamp?]
  change (dateParts plainYear _).bind _ = _
  rcases lt_or_ge ts.civil.date.year 0 with before | after
  · rw [dateParts, plain_year_refused before]
    rfl
  · have year := plain_year_read ⟨after, ts.civil.date.year_range.2⟩
    rw [date_parts_read year (parts_small _).1 (parts_small _).2, Option.bind_some]
    change (clockParts _).bind _ = _
    rw [clock_parts_shown]
    split
    · change (fraction _).bind _ = _
      rw [shown_fraction_read _ _ (no_digit_behind_blank _)]
      rfl
    · rfl

theorem plain_text_no_offset : offsetTimestamp? (plainText ts) = none := by
  rw [plainText, offsetTimestamp?, date_time_shown ts.civil ' ' _ (no_digit_behind_blank _)]
  split <;> rfl

theorem plain_text_end : EndsInDigit (plainText ts) := by
  have zero : ['0'] <:+ plainText ts :=
    ⟨ts.civil.date.text ++ ' ' :: (ts.civil.time.text ++ ' ' :: (ts.offsetText ++ [':', '0'])),
      by simp [plainText]⟩
  exact ends_in_digit_of_suffix zero ⟨'0', rfl, rfl⟩

theorem plain_text_trim : Text.trim (plainText ts) = plainText ts :=
  trim_of_ends (date_text_first ts.civil.date _) (plain_text_end ts)

theorem plain_text_no_date_time : readDateTime? (plainText ts) = none := by
  rw [readDateTime?, plain_text_trim, plainText, date_time_shown ts.civil ' ' _ (no_digit_behind_blank _),
    date_time_other_mark ts.civil.date (by decide)]
  split <;> rfl

/-- The blank in front of its offset is in no form that is read. -/
theorem read_plain_text : readTimestamp? (plainText ts) = none := by
  rw [readTimestamp?, plain_text_trim, plain_text_no_internet, drop_utc_of_digit (plain_text_end ts),
    plain_text_no_offset, plain_text_no_date_time]
  rfl

/-- A timestamp is read back as it is shown when it has an internet form. -/
theorem read_shown_timestamp : readTimestamp? ts.text = if ts.hasInternetForm then some ts else none := by
  unfold Timestamp.text
  split
  · rename_i form
    rw [readTimestamp?, trim_visible (internet_text_first ts) (internet_text_last ts), internet_text_read form]
    rfl
  · have plain : ts.civil.date.text ++ ' ' :: ts.civil.time.text ++ ' ' :: ts.offsetText ++ [':', '0', '0'] =
        plainText ts := by simp [plainText]
    rw [plain, read_plain_text]

end plain

end Calendar

end QueryCheck

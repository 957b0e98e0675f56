import QueryCheck.Calendar.Reader

/-!
# Texts of dates and times

Every reader leaves an end of its text, and a text that is a date-time to its last character ends in a
digit. So a closing ` UTC` is never taken off a date-time, and nothing is left of it for an offset: every
date-time is also a timestamp, read at offset zero.
-/

namespace QueryCheck

set_option autoImplicit false

namespace Text

theorem drop_while_again (p : Char → Bool) (text : List Char) :
    (text.dropWhile p).dropWhile p = text.dropWhile p := by
  induction text with
  | nil => rfl
  | cons c rest induction =>
      by_cases skipped : p c = true
      · simpa [skipped] using induction
      · simp [skipped]

theorem trim_end_start (text : List Char) :
    trimStart (trimEnd (trimStart text)) = trimEnd (trimStart text) := by
  have shorter : trimEnd (trimStart text) <+: trimStart text := by
    unfold trimEnd
    exact List.reverse_suffix.mp (by rw [List.reverse_reverse]; exact List.dropWhile_suffix _)
  have start := List.head?_dropWhile_not isWhitespace text
  cases trimmed : trimEnd (trimStart text) with
  | nil => rfl
  | cons c rest =>
      rw [trimmed] at shorter
      obtain ⟨more, whole⟩ := shorter
      unfold trimStart at whole
      rw [← whole] at start
      have kept : isWhitespace c = false := by simpa using start
      simp [trimStart, kept]

theorem trim_trim (text : List Char) : trim (trim text) = trim text := by
  unfold trim
  rw [trim_end_start]
  unfold trimEnd
  rw [List.reverse_reverse, drop_while_again]

end Text

namespace Calendar

open Text (Reader)

/-! ## What readers leave -/

variable {text rest : List Char}

theorem digits_suffix {count value : Nat} (found : digits count text = some (value, rest)) :
    rest <:+ text := by
  unfold digits at found
  dsimp only at found
  split at found
  · cases found
    exact List.drop_suffix count text
  · cases found

theorem literal_suffix {c : Char} {value : Unit} (found : literal c text = some (value, rest)) :
    rest <:+ text := by
  cases text with
  | nil => cases found
  | cons d more =>
      by_cases same : d = c
      · simp only [literal, same, if_true, Option.some.injEq, Prod.mk.injEq] at found
        rw [← found.2]
        exact List.suffix_cons d more
      · simp [literal, same] at found

theorem sign_suffix {negative : Bool} (found : sign text = some (negative, rest)) :
    rest <:+ text := by
  unfold sign at found
  split at found
  · cases found
    exact List.suffix_cons _ _
  · cases found
    exact List.suffix_cons _ _
  · cases found

theorem signed_year_suffix {year : Int} (found : signedYear text = some (year, rest)) :
    rest <:+ text := by
  unfold signedYear at found
  split at found
  · rename_i negative more signed
    obtain ⟨⟨value, left⟩, digitsFound, same⟩ := Option.map_eq_some_iff.mp found
    cases same
    exact (digits_suffix digitsFound).trans (sign_suffix signed)
  · obtain ⟨⟨value, left⟩, digitsFound, same⟩ := Option.map_eq_some_iff.mp found
    cases same
    exact digits_suffix digitsFound

theorem date_parts_suffix {readYear : Reader Int} {parts : Int × Nat × Nat}
    (yearSuffix : ∀ {text rest : List Char} {year : Int}, readYear text = some (year, rest) →
      rest <:+ text)
    (found : dateParts readYear text = some (parts, rest)) : rest <:+ text := by
  simp only [dateParts, Option.bind_eq_bind, Option.bind_eq_some_iff] at found
  obtain ⟨⟨year, afterYear⟩, yearFound, ⟨_, afterDash⟩, dash, ⟨month, afterMonth⟩, monthFound,
    ⟨_, afterSecond⟩, second, ⟨day, afterDay⟩, dayFound, same⟩ := found
  cases same
  exact (digits_suffix dayFound).trans ((literal_suffix second).trans
    ((digits_suffix monthFound).trans ((literal_suffix dash).trans (yearSuffix yearFound))))

theorem date_suffix {value : Date} (found : date text = some (value, rest)) : rest <:+ text := by
  simp only [date, Option.bind_eq_bind, Option.bind_eq_some_iff] at found
  obtain ⟨⟨parts, afterParts⟩, partsFound, made, _, same⟩ := found
  cases same
  exact date_parts_suffix signed_year_suffix partsFound

/-! ## How a time of day ends -/

def EndsInDigit (text : List Char) : Prop :=
  ∃ c, text.getLast? = some c ∧ c.isDigit = true

theorem ends_in_digit_of_suffix (shorter : rest <:+ text) (ends : EndsInDigit rest) :
    EndsInDigit text := by
  obtain ⟨front, rfl⟩ := shorter
  obtain ⟨c, last, digit⟩ := ends
  exact ⟨c, by rw [List.getLast?_append, last]; rfl, digit⟩

theorem ends_in_digit_of_all (nonempty : text ≠ []) (all : text.all Char.isDigit = true) :
    EndsInDigit text :=
  ⟨text.getLast nonempty, List.getLast?_eq_some_getLast nonempty,
    List.all_eq_true.mp all _ (List.getLast_mem nonempty)⟩

theorem digits_end {count value : Nat} (positive : 0 < count)
    (found : digits count text = some (value, [])) : EndsInDigit text := by
  unfold digits at found
  dsimp only at found
  split at found
  · rename_i taken
    have left : text.drop count = [] := by
      simp only [Option.some.injEq, Prod.mk.injEq] at found
      exact found.2
    have whole : text.take count = text := by
      have parts := List.take_append_drop count text
      rwa [left, List.append_nil] at parts
    rw [whole] at taken
    refine ends_in_digit_of_all ?_ taken.2
    intro same
    subst same
    have empty := taken.1
    simp at empty
    omega
  · cases found

theorem clock_parts_end {parts : Nat × Nat × Nat} (found : clockParts text = some (parts, [])) :
    EndsInDigit text := by
  simp only [clockParts, Option.bind_eq_bind, Option.bind_eq_some_iff] at found
  obtain ⟨⟨hour, afterHour⟩, hourFound, ⟨_, afterColon⟩, colon, ⟨minute, afterMinute⟩, minuteFound,
    ⟨_, afterSecond⟩, second, ⟨seconds, afterSeconds⟩, secondFound, same⟩ := found
  cases same
  have ends := digits_end (by decide) secondFound
  exact ends_in_digit_of_suffix ((literal_suffix second).trans ((digits_suffix minuteFound).trans
    ((literal_suffix colon).trans (digits_suffix hourFound)))) ends

theorem clock_parts_suffix {parts : Nat × Nat × Nat} (found : clockParts text = some (parts, rest)) :
    rest <:+ text := by
  simp only [clockParts, Option.bind_eq_bind, Option.bind_eq_some_iff] at found
  obtain ⟨⟨hour, afterHour⟩, hourFound, ⟨_, afterColon⟩, colon, ⟨minute, afterMinute⟩, minuteFound,
    ⟨_, afterSecond⟩, second, ⟨seconds, afterSeconds⟩, secondFound, same⟩ := found
  cases same
  exact (digits_suffix secondFound).trans ((literal_suffix second).trans
    ((digits_suffix minuteFound).trans ((literal_suffix colon).trans (digits_suffix hourFound))))

theorem fraction_end {nanos : Nat} (found : fraction text = some (nanos, [])) :
    EndsInDigit text := by
  unfold fraction at found
  split at found
  · rename_i more
    dsimp only [spanDigits] at found
    split at found
    · cases found
    · rename_i some
      have left : more.dropWhile Char.isDigit = [] := by
        simp only [Option.some.injEq, Prod.mk.injEq] at found
        exact found.2
      have whole : more.takeWhile Char.isDigit = more := by
        have parts := List.takeWhile_append_dropWhile (p := Char.isDigit) (l := more)
        rwa [left, List.append_nil] at parts
      rw [whole, List.isEmpty_iff] at some
      refine ends_in_digit_of_suffix (List.suffix_cons '.' more) (ends_in_digit_of_all some ?_)
      rw [← whole]
      exact List.all_takeWhile
  · cases found

theorem time_of_day_end {value : TimeOfDay} (found : timeOfDay text = some (value, [])) :
    EndsInDigit text := by
  simp only [timeOfDay, Option.bind_eq_bind, Option.bind_eq_some_iff] at found
  obtain ⟨⟨parts, afterClock⟩, clock, made, _, same⟩ := found
  have ended : (fractionIfAny afterClock).2 = [] := by
    simp only [Option.some.injEq, Prod.mk.injEq] at same
    exact same.2
  unfold fractionIfAny at ended
  cases fractionFound : fraction afterClock with
  | none =>
      rw [fractionFound] at ended
      change afterClock = [] at ended
      rw [ended] at clock
      exact clock_parts_end clock
  | some read =>
      obtain ⟨nanos, left⟩ := read
      rw [fractionFound] at ended
      change left = [] at ended
      rw [ended] at fractionFound
      exact ends_in_digit_of_suffix (clock_parts_suffix clock) (fraction_end fractionFound)

theorem date_time_end {separator : Char} {value : DateTime}
    (found : atEnd (dateTime separator text) = some value) : EndsInDigit text := by
  unfold atEnd at found
  split at found
  · rename_i read whole
    simp only [dateTime, Option.bind_eq_bind, Option.bind_eq_some_iff] at whole
    obtain ⟨⟨day, afterDate⟩, dateFound, ⟨_, afterSeparator⟩, separated, ⟨time, left⟩, timeFound,
      same⟩ := whole
    cases same
    exact ends_in_digit_of_suffix ((literal_suffix separated).trans (date_suffix dateFound))
      (time_of_day_end timeFound)
  · cases found

/-! ## Date-times as timestamps -/

theorem drop_utc_of_digit (ends : EndsInDigit text) : dropUtc text = text := by
  obtain ⟨c, last, digit⟩ := ends
  rw [List.getLast?_eq_head?_reverse] at last
  unfold dropUtc
  split
  · rename_i more reversed
    rw [reversed] at last
    cases last
    cases digit
  · rfl

/-- Years as the internet form has them, without a sign -/
def plainYear : Reader Int := fun text =>
  (digits 4 text).map fun (year, rest) => ((year : Int), rest)

theorem sign_of_digits {count value : Nat} (found : digits (count + 1) text = some (value, rest)) :
    sign text = none := by
  unfold digits at found
  dsimp only at found
  split at found
  · rename_i taken
    unfold sign
    split
    · exact absurd taken.2 (by simp)
    · exact absurd taken.2 (by simp)
    · rfl
  · cases found

theorem plain_year_signed {year : Int} (found : plainYear text = some (year, rest)) :
    signedYear text = some (year, rest) := by
  obtain ⟨⟨value, left⟩, digitsFound, same⟩ := Option.map_eq_some_iff.mp found
  unfold signedYear
  rw [sign_of_digits digitsFound]
  exact found

theorem date_parts_signed {parts : Int × Nat × Nat} (found : dateParts plainYear text = some (parts, rest)) :
    dateParts signedYear text = some (parts, rest) := by
  unfold dateParts at *
  obtain ⟨⟨year, afterYear⟩, yearFound, found⟩ := Option.bind_eq_some_iff.mp found
  exact Option.bind_eq_some_iff.mpr ⟨(year, afterYear), plain_year_signed yearFound, found⟩

theorem literal_some {c : Char} {value : Unit} (found : literal c text = some (value, rest)) :
    text = c :: rest := by
  cases text with
  | nil => cases found
  | cons d more =>
      simp only [literal, Option.ite_none_right_eq_some, Option.some.injEq, Prod.mk.injEq] at found
      rw [found.1, found.2.2]

/-- What a date-time that ends its text is made of: nothing follows its clock. -/
theorem date_time_whole {mark : Char} {value : DateTime} (found : atEnd (dateTime mark text) = some value) :
    ∃ parts clock behindDate behindClock, dateParts signedYear text = some (parts, mark :: behindDate) ∧
      clockParts behindDate = some (clock, behindClock) ∧ (fractionIfAny behindClock).2 = [] := by
  unfold atEnd at found
  split at found
  · rename_i read whole
    simp only [dateTime, date, timeOfDay, Option.bind_eq_bind, Option.bind_eq_some_iff] at whole
    obtain ⟨⟨day, afterDate⟩, ⟨⟨parts, afterParts⟩, partsFound, made, _, sameDate⟩, ⟨_, behindDate⟩,
      separated, ⟨time, left⟩, ⟨⟨clock, behindClock⟩, clockFound, _, _, sameTime⟩, same⟩ := whole
    cases sameDate
    cases sameTime
    dsimp only at separated clockFound same
    rw [literal_some separated] at partsFound
    exact ⟨parts, clock, behindDate, behindClock, partsFound, clockFound, congrArg Prod.snd (Option.some.inj same)⟩
  · cases found

/-- The internet form has an offset behind its clock, where a date-time has nothing. -/
theorem internet_refuses_date_time {mark : Char} {value : DateTime}
    (found : atEnd (dateTime mark text) = some value) : internetTimestamp? text = none := by
  obtain ⟨parts, clock, behindDate, behindClock, date, clockFound, ended⟩ := date_time_whole found
  rw [Option.eq_none_iff_forall_ne_some]
  intro ts read
  simp only [internetTimestamp?, Option.bind_eq_bind, Option.bind_eq_some_iff] at read
  obtain ⟨⟨_, afterDate⟩, dateRead, ⟨_, afterMark⟩, marked, ⟨_, afterClock⟩, clockRead, behind⟩ := read
  have sameDate := date_parts_signed dateRead
  rw [date] at sameDate
  cases sameDate
  simp only [separator, Option.ite_none_right_eq_some, Option.some.injEq, Prod.mk.injEq] at marked
  rw [← marked.2.2, clockFound] at clockRead
  cases clockRead
  unfold fractionIfAny at ended
  dsimp only at behind
  split at behind
  · obtain ⟨⟨nanos, left⟩, fractionRead, behind⟩ := Option.bind_eq_some_iff.mp behind
    rw [fractionRead] at ended
    change left = [] at ended
    rw [ended] at behind
    cases behind
  · rename_i plain
    have none : fraction behindClock = none := by
      unfold fraction
      split
      · exact absurd rfl (plain _)
      · rfl
    rw [none] at ended
    change behindClock = [] at ended
    rw [ended] at behind
    cases behind

theorem offset_refuses_date_time {mark : Char} {value : DateTime}
    (found : atEnd (dateTime mark text) = some value) : offsetTimestamp? text = none := by
  obtain ⟨parts, clock, behindDate, behindClock, date, clockFound, ended⟩ := date_time_whole found
  rw [Option.eq_none_iff_forall_ne_some]
  intro ts read
  simp only [offsetTimestamp?, dateTime, Calendar.date, timeOfDay, Option.bind_eq_bind, Option.bind_eq_some_iff] at read
  obtain ⟨_, ⟨⟨_, _⟩, ⟨⟨_, _⟩, dateRead, _, _, sameDate⟩, ⟨_, _⟩, separated, ⟨_, _⟩, ⟨⟨_, _⟩, clockRead, _, _,
    sameTime⟩, same⟩, shift, offsetRead, -⟩ := read
  cases sameDate
  cases sameTime
  cases same
  rw [date] at dateRead
  cases dateRead
  cases literal_some separated
  rw [clockFound] at clockRead
  cases clockRead
  dsimp only at offsetRead
  rw [ended] at offsetRead
  cases offsetRead

/-- A text that is a date-time is no text with an offset, and as a timestamp it is read at offset zero. -/
theorem read_timestamp_of_date_time {value : DateTime} (read : readDateTime? text = some value) :
    readTimestamp? text = some (.atUtc value) := by
  have again : readDateTime? (Text.trim text) = some value := by
    unfold readDateTime? at *
    rw [Text.trim_trim]
    exact read
  have whole : ∃ mark, atEnd (dateTime mark (Text.trim text)) = some value := by
    unfold readDateTime? at read
    dsimp only at read
    cases spaced : atEnd (dateTime ' ' (Text.trim text)) with
    | some first =>
        rw [spaced] at read
        cases read
        exact ⟨' ', spaced⟩
    | none =>
        rw [spaced] at read
        exact ⟨'T', read⟩
  obtain ⟨mark, found⟩ := whole
  unfold readTimestamp?
  dsimp only
  rw [drop_utc_of_digit (date_time_end found), again, internet_refuses_date_time found,
    offset_refuses_date_time found]
  rfl

end Calendar

end QueryCheck

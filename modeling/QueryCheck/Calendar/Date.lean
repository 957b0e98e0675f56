import QueryCheck.Number.Digits

/-!
# Calendar dates

Dates of the years -9999 to 9999 in the Gregorian calendar, extended to all years, and their numbers on
the line of days that has 1970-01-01 at zero.
-/

namespace QueryCheck

def isLeapYear (year : Int) : Bool :=
  year % 4 == 0 && (year % 100 != 0 || year % 400 == 0)

def monthLength (year : Int) (month : Nat) : Nat :=
  if month = 2 then if isLeapYear year then 29 else 28
  else if month = 4 ∨ month = 6 ∨ month = 9 ∨ month = 11 then 30
  else 31

structure Date where
  year : Int
  month : Nat
  day : Nat
  year_range : -9999 ≤ year ∧ year ≤ 9999
  month_range : 1 ≤ month ∧ month ≤ 12
  day_range : 1 ≤ day ∧ day ≤ monthLength year month
deriving DecidableEq

namespace Date

def ofParts? (year : Int) (month day : Nat) : Option Date :=
  if valid : (-9999 ≤ year ∧ year ≤ 9999) ∧ (1 ≤ month ∧ month ≤ 12) ∧
      1 ≤ day ∧ day ≤ monthLength year month then
    some ⟨year, month, day, valid.1, valid.2.1, valid.2.2⟩
  else none

def daysBeforeYear (year : Int) : Int :=
  365 * year + (year + 3) / 4 - (year + 99) / 100 + (year + 399) / 400

def daysBeforeMonth (year : Int) (month : Nat) : Nat :=
  (List.range (month - 1)).foldl (fun days earlier => days + monthLength year (earlier + 1)) 0

/-- The number of 1970-01-01, counted from the start of the year 0. -/
def epochDay : Int := 719528

def dayNumber (d : Date) : Int :=
  daysBeforeYear d.year + daysBeforeMonth d.year d.month + d.day - 1 - epochDay

/-- The year that a day belongs to; the estimate from the mean length of a year is off by at most one. -/
def yearOfDay (day : Int) : Int :=
  let estimate := day * 400 / 146097
  if daysBeforeYear (estimate + 1) ≤ day then estimate + 1
  else if day < daysBeforeYear estimate then estimate - 1
  else estimate

def ofDayNumber? (number : Int) : Option Date :=
  let day := number + epochDay
  let year := yearOfDay day
  let ordinal := (day - daysBeforeYear year).toNat
  let months := (List.range 12).map (· + 1)
  match months.find? fun month => ordinal < daysBeforeMonth year month + monthLength year month with
  | some month => ofParts? year month (ordinal - daysBeforeMonth year month + 1)
  | none => none

/-- Years have at least four digits; a sign stands before a year below zero. -/
def text (d : Date) : List Char :=
  (if d.year < 0 then ['-'] else []) ++ paddedText 4 d.year.natAbs ++
    '-' :: paddedText 2 d.month ++ '-' :: paddedText 2 d.day

end Date

end QueryCheck

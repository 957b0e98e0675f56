import QueryCheck.Calendar.Date
import QueryCheck.Calendar.TimeOfDay

/-!
# Date-times and timestamps

A date-time has no place on the timeline until an offset is given. A timestamp has one: it keeps the
clock of its own offset, and its instant is counted in nanoseconds from 1970-01-01 at Greenwich.
-/

namespace QueryCheck

structure DateTime where
  date : Date
  time : TimeOfDay
deriving DecidableEq

namespace DateTime

/-- Nanoseconds from the epoch, the clock read at offset zero. -/
def nanos (dt : DateTime) : Int :=
  dt.date.dayNumber * TimeOfDay.nanosPerDay + dt.time.nanos

/-- The date-time at this distance from the epoch; none outside the years of the calendar. -/
def ofNanos? (nanos : Int) : Option DateTime :=
  match Date.ofDayNumber? (nanos / TimeOfDay.nanosPerDay),
    TimeOfDay.ofNanos? (nanos % TimeOfDay.nanosPerDay).toNat with
  | some date, some time => some ⟨date, time⟩
  | _, _ => none

def text (dt : DateTime) : List Char :=
  dt.date.text ++ 'T' :: dt.time.text

end DateTime

/-- The clock reads `civil` where clocks are `offset` minutes ahead of Greenwich. -/
structure Timestamp where
  civil : DateTime
  offset : Int
deriving DecidableEq

namespace Timestamp

def nanosPerMinute : Nat := 60 * TimeOfDay.nanosPerSecond

def atUtc (civil : DateTime) : Timestamp :=
  ⟨civil, 0⟩

def instant (ts : Timestamp) : Int :=
  ts.civil.nanos - ts.offset * nanosPerMinute

def ofInstant? (instant : Int) : Option Timestamp :=
  (DateTime.ofNanos? instant).map atUtc

/-- The timestamp of an instant whose whole seconds are counted by a signed word of 64 bits; a count that
does not fit the word wraps around. -/
def ofCounted? (instant : Int) : Option Timestamp :=
  let seconds := Int64.ofInt (instant / TimeOfDay.nanosPerSecond)
  ofInstant? (seconds.toInt * TimeOfDay.nanosPerSecond + instant % TimeOfDay.nanosPerSecond)

/-- The clock at Greenwich; none when it shows a year outside the calendar. -/
def utcCivil? (ts : Timestamp) : Option DateTime :=
  DateTime.ofNanos? ts.instant

def offsetText (ts : Timestamp) : List Char :=
  (if ts.offset < 0 then '-' else '+') :: paddedText 2 (ts.offset.natAbs / 60) ++
    ':' :: paddedText 2 (ts.offset.natAbs % 60)

/-- The internet form can hold the years 0 to 9999 and offsets below a day. -/
def hasInternetForm (ts : Timestamp) : Bool :=
  decide (0 ≤ ts.civil.date.year) && decide (ts.offset.natAbs / 60 ≤ 23)

def internetText (ts : Timestamp) : List Char :=
  ts.civil.date.text ++ 'T' :: ts.civil.time.paddedClock ++
    (if ts.civil.time.nanosecond = 0 then [] else '.' :: ts.civil.time.fractionDigits) ++
    if ts.offset = 0 then ['Z'] else ts.offsetText

/-- The internet form, or else date, time and offset to the second, set apart by blanks. -/
def text (ts : Timestamp) : List Char :=
  if ts.hasInternetForm then ts.internetText
  else
    ts.civil.date.text ++ ' ' :: ts.civil.time.text ++ ' ' :: ts.offsetText ++ [':', '0', '0']

end Timestamp

end QueryCheck

import QueryCheck.Number.Digits

/-!
# Times of day

Times to the nanosecond, without leap seconds.
-/

namespace QueryCheck

structure TimeOfDay where
  hour : Nat
  minute : Nat
  second : Nat
  nanosecond : Nat
  hour_lt : hour < 24
  minute_lt : minute < 60
  second_lt : second < 60
  nanosecond_lt : nanosecond < 1000000000
deriving DecidableEq

namespace TimeOfDay

def ofParts? (hour minute second nanosecond : Nat) : Option TimeOfDay :=
  if valid : hour < 24 ∧ minute < 60 ∧ second < 60 ∧ nanosecond < 1000000000 then
    some ⟨hour, minute, second, nanosecond, valid.1, valid.2.1, valid.2.2.1, valid.2.2.2⟩
  else none

def midnight : TimeOfDay :=
  ⟨0, 0, 0, 0, by decide, by decide, by decide, by decide⟩

def nanosPerSecond : Nat := 1000000000

def nanosPerDay : Nat := 86400 * nanosPerSecond

def nanos (t : TimeOfDay) : Nat :=
  ((t.hour * 60 + t.minute) * 60 + t.second) * nanosPerSecond + t.nanosecond

def ofNanos? (nanos : Nat) : Option TimeOfDay :=
  let seconds := nanos / nanosPerSecond
  ofParts? (seconds / 3600) (seconds / 60 % 60) (seconds % 60) (nanos % nanosPerSecond)

/-- The nine digits of the fraction without the zeros at their end. -/
def fractionDigits (t : TimeOfDay) : List Char :=
  ((paddedText 9 t.nanosecond).reverse.dropWhile (· == '0')).reverse

/-- The hour is not padded, and the fraction has at least one digit. -/
def text (t : TimeOfDay) : List Char :=
  natText t.hour ++ ':' :: paddedText 2 t.minute ++ ':' :: paddedText 2 t.second ++
    '.' :: (if t.nanosecond = 0 then ['0'] else t.fractionDigits)

/-- All parts have two digits; a fraction is written only when there is one. -/
def paddedClock (t : TimeOfDay) : List Char :=
  paddedText 2 t.hour ++ ':' :: paddedText 2 t.minute ++ ':' :: paddedText 2 t.second

end TimeOfDay

end QueryCheck

import QueryCheck.Calendar.Timestamp
import QueryCheck.Text.Basic

/-!
# Reading dates, times and timestamps

Every reader takes a whole text, blanks at its ends aside. Years have four digits behind an optional
sign, the other parts two digits, and a fraction one or more, of which nine count. A timestamp is read
in the internet form first; its year has no sign, any single-byte character may stand between date and
time, and a leap second is taken at the end of a month for the last nanosecond before it.
-/

namespace QueryCheck.Calendar

open Text (Reader)

def digits (count : Nat) : Reader Nat := fun text =>
  let taken := text.take count
  if taken.length = count ∧ taken.all Char.isDigit then some (ofDigits taken, text.drop count)
  else none

def literal (c : Char) : Reader Unit
  | [] => none
  | d :: rest => if d = c then some ((), rest) else none

/-- True for a minus sign. -/
def sign : Reader Bool
  | '-' :: rest => some (true, rest)
  | '+' :: rest => some (false, rest)
  | _ => none

def signedYear : Reader Int := fun text =>
  match sign text with
  | some (negative, rest) =>
    (digits 4 rest).map fun (year, rest) => (if negative then -(year : Int) else year, rest)
  | none => (digits 4 text).map fun (year, rest) => ((year : Int), rest)

/-- The nanoseconds that the digits after a point denote; digits after the ninth are cut. -/
def fractionNanos (fraction : List Char) : Nat :=
  let nine := fraction.take 9
  ofDigits nine * Nat.pow 10 (9 - nine.length)

def fraction : Reader Nat
  | '.' :: text =>
    let (found, rest) := spanDigits text
    if found.isEmpty then none else some (fractionNanos found, rest)
  | _ => none

def fractionIfAny (text : List Char) : Nat × List Char :=
  (fraction text).getD (0, text)

def dateParts (year : Reader Int) : Reader (Int × Nat × Nat) := fun text => do
  let (y, text) ← year text
  let (_, text) ← literal '-' text
  let (m, text) ← digits 2 text
  let (_, text) ← literal '-' text
  let (d, text) ← digits 2 text
  some ((y, m, d), text)

def clockParts : Reader (Nat × Nat × Nat) := fun text => do
  let (h, text) ← digits 2 text
  let (_, text) ← literal ':' text
  let (m, text) ← digits 2 text
  let (_, text) ← literal ':' text
  let (s, text) ← digits 2 text
  some ((h, m, s), text)

def date : Reader Date := fun text => do
  let ((y, m, d), rest) ← dateParts signedYear text
  let value ← Date.ofParts? y m d
  some (value, rest)

def timeOfDay : Reader TimeOfDay := fun text => do
  let ((h, m, s), rest) ← clockParts text
  let (nanos, rest) := fractionIfAny rest
  let value ← TimeOfDay.ofParts? h m s nanos
  some (value, rest)

def dateTime (separator : Char) : Reader DateTime := fun text => do
  let (day, rest) ← date text
  let (_, rest) ← literal separator rest
  let (time, rest) ← timeOfDay rest
  some (⟨day, time⟩, rest)

/-- A signed offset in minutes, with hours up to `maxHours`. -/
def offset (maxHours : Nat) : Reader Int := fun text => do
  let (negative, text) ← sign text
  let (h, text) ← digits 2 text
  let (_, text) ← literal ':' text
  let (m, text) ← digits 2 text
  if h ≤ maxHours ∧ m < 60 then
    let minutes : Int := h * 60 + m
    some (if negative then -minutes else minutes, text)
  else none

def atEnd {α : Type} : Option (α × List Char) → Option α
  | some (value, []) => some value
  | _ => none

/-- Offset zero may be written as the letter Z. -/
def internetOffset : Reader Int
  | 'Z' :: rest => some (0, rest)
  | 'z' :: rest => some (0, rest)
  | text => offset 23 text

def separator : Reader Unit
  | [] => none
  | c :: rest => if c.toNat < 128 then some ((), rest) else none

/-- At Greenwich the clock shows the last nanosecond of a month. -/
def endsMonth (ts : Timestamp) : Bool :=
  match ts.utcCivil? with
  | none => false
  | some utc =>
    utc.time.hour == 23 && utc.time.minute == 59 && utc.time.second == 59 &&
      utc.date.day == monthLength utc.date.year utc.date.month

def internetTimestamp? (text : List Char) : Option Timestamp := do
  let ((y, m, d), rest) ← dateParts (fun text => (digits 4 text).map fun (n, r) => ((n : Int), r)) text
  let (_, rest) ← separator rest
  let ((hour, minute, second), rest) ← clockParts rest
  let (nanos, rest) ← match rest with
    | '.' :: _ => fraction rest
    | _ => some (0, rest)
  let shift ← atEnd (internetOffset rest)
  let day ← Date.ofParts? y m d
  if second = 60 then
    let time ← TimeOfDay.ofParts? hour minute 59 999999999
    let ts : Timestamp := ⟨⟨day, time⟩, shift⟩
    if endsMonth ts then some ts else none
  else
    let time ← TimeOfDay.ofParts? hour minute second nanos
    some ⟨⟨day, time⟩, shift⟩

def offsetTimestamp? (text : List Char) : Option Timestamp := do
  let (civil, rest) ← dateTime ' ' text
  let shift ← atEnd (offset 25 rest)
  some ⟨civil, shift⟩

def readDate? (text : List Char) : Option Date :=
  atEnd (date (Text.trim text))

def readTimeOfDay? (text : List Char) : Option TimeOfDay :=
  atEnd (timeOfDay (Text.trim text))

def readDateTime? (text : List Char) : Option DateTime :=
  let text := Text.trim text
  (atEnd (dateTime ' ' text)).orElse fun _ => atEnd (dateTime 'T' text)

def dropUtc (text : List Char) : List Char :=
  match text.reverse with
  | 'C' :: 'T' :: 'U' :: ' ' :: rest => rest.reverse
  | _ => text

/-- A text without an offset is read at offset zero. -/
def readTimestamp? (text : List Char) : Option Timestamp :=
  let text := Text.trim text
  (internetTimestamp? text).orElse fun _ =>
    (offsetTimestamp? (dropUtc text)).orElse fun _ =>
      (readDateTime? (dropUtc text)).map Timestamp.atUtc

end QueryCheck.Calendar

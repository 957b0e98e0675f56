import QueryCheck.Calendar.Reader
import QueryCheck.Number.Binary64
import QueryCheck.Text.Hex

/-!
# Numbers and moments

Between two digits of a number an underscore may stand. Whole numbers fit 64 bits with their sign, and
those of the bases sixteen, eight and two have none. A number with fraction digits or an exponent is a
double; one that is above all doubles is refused.
-/

namespace QueryCheck.Toml

open Text (Reader afterWord)

/-- The digits that follow a digit, without the underscores between them. -/
def moreDigits (isDigit : Char → Bool) : List Char → List Char × List Char
  | '_' :: c :: rest =>
    if isDigit c then (c :: (moreDigits isDigit rest).1, (moreDigits isDigit rest).2)
    else ([], '_' :: c :: rest)
  | c :: rest =>
    if isDigit c then (c :: (moreDigits isDigit rest).1, (moreDigits isDigit rest).2)
    else ([], c :: rest)
  | [] => ([], [])

def digitRun (isDigit : Char → Bool) : Reader (List Char)
  | c :: rest =>
    if isDigit c then
      let (digits, rest) := moreDigits isDigit rest
      some (c :: digits, rest)
    else none
  | [] => none

def sign : List Char → Bool × List Char
  | '-' :: rest => (true, rest)
  | '+' :: rest => (false, rest)
  | text => (false, text)

/-- Digits in base ten; a zero in front stands alone. -/
def wholeDigits : Reader (List Char)
  | '0' :: rest => some (['0'], rest)
  | text => digitRun Char.isDigit text

def radixInteger (base : Nat) : Reader Int64 := fun text => do
  let (digits, rest) ← digitRun (fun c => (Text.hexValue? c).any (· < base)) text
  let n ← Text.ofRadix? base digits
  let value ← int64OfInt n
  some (value, rest)

def integer : Reader Int64
  | '0' :: 'x' :: rest => radixInteger 16 rest
  | '0' :: 'o' :: rest => radixInteger 8 rest
  | '0' :: 'b' :: rest => radixInteger 2 rest
  | text => do
    let (negative, body) := sign text
    let (digits, rest) ← wholeDigits body
    let value ← int64OfInt (if negative then -(ofDigits digits : Int) else ofDigits digits)
    some (value, rest)

def fraction : Reader (List Char)
  | '.' :: rest => digitRun Char.isDigit rest
  | text => some ([], text)

def exponent (text : List Char) : Option (Int × List Char) := do
  let (negative, body) := sign text
  let (digits, rest) ← digitRun Char.isDigit body
  some (if negative then -(ofDigits digits : Int) else ofDigits digits, rest)

def exponentIfAny : Reader (Option Int)
  | 'e' :: rest => (exponent rest).map fun (n, rest) => (some n, rest)
  | 'E' :: rest => (exponent rest).map fun (n, rest) => (some n, rest)
  | text => some (none, text)

def decimal : Reader Float := fun text => do
  let (negative, body) := sign text
  let (whole, rest) ← wholeDigits body
  let (places, rest) ← fraction rest
  let (power, rest) ← exponentIfAny rest
  if places.isEmpty && power.isNone then none
  else
    let value := Binary64.DecimalParts.value ⟨whole, places, power.getD 0⟩
    if value == Binary64.infinity && !negative then none
    else some (Binary64.withSign negative value, rest)

def special : Reader Float := fun text =>
  let (negative, body) := sign text
  match afterWord "inf".toList body with
  | some rest => some (Binary64.withSign negative Binary64.infinity, rest)
  | none => (afterWord "nan".toList body).map fun rest => (Binary64.nan, rest)

/-! ## Moments -/

def afterDate (text : List Char) : Option (List Char) := do
  let ((year, month, day), rest) ←
    Calendar.dateParts (fun text => (Calendar.digits 4 text).map fun (n, rest) => ((n : Int), rest)) text
  if 1 ≤ month ∧ month ≤ 12 ∧ 1 ≤ day ∧ day ≤ monthLength year month then some rest else none

/-- The text behind a time of day, which may name a leap second. -/
def afterTime (text : List Char) : Option (List Char) := do
  let ((hour, minute, second), rest) ← Calendar.clockParts text
  if hour < 24 ∧ minute < 60 ∧ second ≤ 60 then
    match rest with
    | '.' :: _ => (Calendar.fraction rest).map Prod.snd
    | _ => some rest
  else none

def isTimeMark (c : Char) : Bool :=
  c == 'T' || c == 't' || c == ' '

def afterTimeIfAny (text : List Char) : List Char :=
  match text with
  | c :: rest =>
    if isTimeMark c then
      match afterTime rest with
      | some rest => ((Calendar.internetOffset rest).map Prod.snd).getD rest
      | none => text
    else text
  | [] => []

def moment : Reader String := fun text =>
  match (afterDate text).map afterTimeIfAny <|> afterTime text with
  | some rest => some (String.ofList (text.take (text.length - rest.length)), rest)
  | none => none

end QueryCheck.Toml

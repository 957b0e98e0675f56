/-!
# Decimal digits

Reading and writing whole numbers in base ten, on lists of characters.
-/

namespace QueryCheck

def digitValue (c : Char) : Nat :=
  c.toNat - '0'.toNat

def ofDigits (digits : List Char) : Nat :=
  digits.foldl (fun value c => value * 10 + digitValue c) 0

def natText (n : Nat) : List Char :=
  Nat.toDigits 10 n

def intText : Int → List Char
  | .ofNat n => natText n
  | .negSucc n => '-' :: natText (n + 1)

def paddedText (width n : Nat) : List Char :=
  let digits := natText n
  List.replicate (width - digits.length) '0' ++ digits

def spanDigits (text : List Char) : List Char × List Char :=
  (text.takeWhile Char.isDigit, text.dropWhile Char.isDigit)

def readNat (text : List Char) : Option Nat :=
  if text ≠ [] ∧ text.all Char.isDigit then some (ofDigits text) else none

def readInt : List Char → Option Int
  | '-' :: digits => (readNat digits).map fun n => -(n : Int)
  | '+' :: digits => (readNat digits).map Int.ofNat
  | digits => (readNat digits).map Int.ofNat

/-- The magnitude of the least INT64. -/
abbrev int64Bound : Nat := 9223372036854775808

def int64OfInt (n : Int) : Option Int64 :=
  if -(int64Bound : Int) ≤ n ∧ n < int64Bound then some (Int64.ofInt n) else none

def readInt64 (text : List Char) : Option Int64 :=
  (readInt text).bind int64OfInt

end QueryCheck

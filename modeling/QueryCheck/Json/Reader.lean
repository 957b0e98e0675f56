import QueryCheck.Json
import QueryCheck.Number.Binary64
import QueryCheck.Text.Basic
import QueryCheck.Text.Hex

/-!
# Reading JSON

A text holds one value. Arrays and objects may be nested up to a limit that the caller sets. A name
that is repeated in an object keeps its first place and takes its last value, unless the reader of the
value is to see every name that is written.

A number without point and exponent is whole when it fits 64 bits, and `-0` is a double. Any other
number is a double: the leading digits that fit an unsigned 64-bit word, scaled by one multiplication
or division by a power of ten; a result beyond the doubles is refused.
-/

namespace QueryCheck.Json

open Text (Reader afterWord)

def isBlank (c : Char) : Bool :=
  c == ' ' || c == '\n' || c == '\t' || c == '\r'

def skipBlanks (text : List Char) : List Char :=
  text.dropWhile isBlank

/-- The digits of a number as a word of 64 bits, with the power of ten that scales it. -/
structure Significand where
  value : Nat
  exponent : Int

/-- Whole digits beyond the word only raise the power of ten. -/
def Significand.ofWhole (digits : List Char) : Significand :=
  push ⟨0, 0⟩ digits
where
  push (s : Significand) : List Char → Significand
    | [] => s
    | c :: rest =>
      if s.exponent = 0 ∧ s.value * 10 + digitValue c < UInt64.size then
        push ⟨s.value * 10 + digitValue c, 0⟩ rest
      else push ⟨s.value, s.exponent + 1⟩ rest

/-- Fraction digits beyond the word are dropped, and all that follow them. -/
def Significand.withFraction (s : Significand) : List Char → Significand
  | [] => s
  | c :: rest =>
    if s.value * 10 + digitValue c < UInt64.size then
      withFraction ⟨s.value * 10 + digitValue c, s.exponent - 1⟩ rest
    else s

def powerOfTen (exponent : Nat) : Float :=
  Binary64.nearest 1 exponent

/-- The scaled double; each division takes at most the largest power of ten that a double holds. -/
def Significand.toFloat (s : Significand) : Option Float :=
  if 308 < s.exponent then
    if s.value = 0 then some 0 else none
  else if 0 ≤ s.exponent then
    let product := Float.ofNat s.value * powerOfTen s.exponent.toNat
    if product.isFinite then some product else none
  else some (divide 4 (Float.ofNat s.value) (-s.exponent).toNat)
where
  divide : Nat → Float → Nat → Float
    | 0, x, _ => x
    | steps + 1, x, places =>
      if places ≤ 308 then x / powerOfTen places
      else if x == 0 then x
      else divide steps (x / powerOfTen 308) (places - 308)

def exponentPart : List Char → Option (Int × List Char)
  | '+' :: text => unsigned text
  | '-' :: text => (unsigned text).map fun (n, rest) => (-n, rest)
  | text => unsigned text
where
  unsigned (text : List Char) : Option (Int × List Char) :=
    let (digits, rest) := spanDigits text
    if digits.isEmpty then none else some ((ofDigits digits : Int), rest)

structure NumberParts where
  whole : List Char
  fraction : Option (List Char)
  exponent : Option Int

def numberParts : Reader NumberParts := fun text =>
  let (whole, afterWhole) := spanDigits text
  if whole.isEmpty || (whole.head? == some '0' && 1 < whole.length) then none
  else do
    let (fraction, afterFraction) ← match afterWhole with
      | '.' :: rest =>
        let (digits, rest) := spanDigits rest
        if digits.isEmpty then none else some (some digits, rest)
      | _ => some (none, afterWhole)
    let (exponent, rest) ← match afterFraction with
      | 'e' :: rest => (exponentPart rest).map fun (n, rest) => (some n, rest)
      | 'E' :: rest => (exponentPart rest).map fun (n, rest) => (some n, rest)
      | _ => some (none, afterFraction)
    some (⟨whole, fraction, exponent⟩, rest)

def NumberParts.value (parts : NumberParts) (negative : Bool) : Option Json :=
  let n := ofDigits parts.whole
  if parts.fraction.isNone && parts.exponent.isNone &&
      (if negative then n != 0 && decide (n ≤ int64Bound) else decide (n < UInt64.size)) then
    some (integer (if negative then -(n : Int) else n))
  else
    let s := (Significand.ofWhole parts.whole).withFraction (parts.fraction.getD [])
    (Significand.toFloat ⟨s.value, s.exponent + parts.exponent.getD 0⟩).map fun x =>
      float (Binary64.withSign negative x)

def number (negative : Bool) : Reader Json := fun text => do
  let (parts, rest) ← numberParts text
  let value ← parts.value negative
  some (value, rest)

def codeUnit : Reader Nat
  | a :: b :: c :: d :: rest => (Text.ofRadix? 16 [a, b, c, d]).map fun n => (n, rest)
  | _ => none

/-- The character behind `\u`: one unit, or two that form a pair. -/
def unicodeEscape : Reader Char := fun text => do
  let (first, rest) ← codeUnit text
  if 0xD800 ≤ first ∧ first < 0xDC00 then
    match rest with
    | '\\' :: 'u' :: rest =>
      let (second, rest) ← codeUnit rest
      if 0xDC00 ≤ second ∧ second < 0xE000 then
        some (Char.ofNat (0x10000 + (first - 0xD800) * 0x400 + (second - 0xDC00)), rest)
      else none
    | _ => none
  else if 0xDC00 ≤ first ∧ first < 0xE000 then none
  else some (Char.ofNat first, rest)

def escape : Reader Char
  | 'u' :: rest => unicodeEscape rest
  | c :: rest =>
    let plain : Option Char :=
      match c with
      | '"' => some '"'
      | '\\' => some '\\'
      | '/' => some '/'
      | 'b' => some (Char.ofNat 8)
      | 'f' => some (Char.ofNat 12)
      | 'n' => some '\n'
      | 'r' => some '\r'
      | 't' => some '\t'
      | _ => none
    plain.map fun c => (c, rest)
  | [] => none

/-- The characters of a string up to its closing quote, and the text behind the quote; every step takes
at least one character, so the length of the text bounds the steps. -/
def stringBody : Nat → Reader (List Char)
  | 0, _ => none
  | steps + 1, text =>
    match text with
    | [] => none
    | '"' :: rest => some ([], rest)
    | '\\' :: rest => do
      let (c, rest) ← escape rest
      let (chars, rest) ← stringBody steps rest
      some (c :: chars, rest)
    | c :: rest =>
      if c.toNat < 32 then none
      else do
        let (chars, rest) ← stringBody steps rest
        some (c :: chars, rest)

def quotedString : Reader String := fun text =>
  (stringBody (text.length + 1) text).map fun (chars, rest) => (String.ofList chars, rest)

mutual

/-- One value; `depth` is how many arrays and objects may still be opened. -/
def valueWithin : Nat → Nat → Reader Json
  | 0, _, _ => none
  | steps + 1, depth, text =>
    match skipBlanks text with
    | 'n' :: rest => (afterWord "ull".toList rest).map fun rest => (null, rest)
    | 't' :: rest => (afterWord "rue".toList rest).map fun rest => (bool true, rest)
    | 'f' :: rest => (afterWord "alse".toList rest).map fun rest => (bool false, rest)
    | '"' :: rest => (quotedString rest).map fun (value, rest) => (string value, rest)
    | '-' :: rest => number true rest
    | '[' :: rest =>
      if depth = 0 then none
      else
        match skipBlanks rest with
        | ']' :: rest => some (array [], rest)
        | rest => (itemsWithin steps (depth - 1) rest).map fun (items, rest) => (array items, rest)
    | '\x7b' :: rest =>
      if depth = 0 then none
      else
        match skipBlanks rest with
        | '\x7d' :: rest => some (object [], rest)
        | rest =>
          (fieldsWithin steps (depth - 1) rest).map fun (pairs, rest) =>
            (object pairs, rest)
    | rest => number false rest

def itemsWithin : Nat → Nat → Reader (List Json)
  | 0, _, _ => none
  | steps + 1, depth, text => do
    let (item, rest) ← valueWithin steps depth text
    match skipBlanks rest with
    | ']' :: rest => some ([item], rest)
    | ',' :: rest =>
      let (items, rest) ← itemsWithin steps depth rest
      some (item :: items, rest)
    | _ => none

def fieldsWithin : Nat → Nat → Reader (List (String × Json))
  | 0, _, _ => none
  | steps + 1, depth, text =>
    match skipBlanks text with
    | '"' :: rest => do
      let (name, rest) ← quotedString rest
      match skipBlanks rest with
      | ':' :: rest =>
        let (value, rest) ← valueWithin steps depth rest
        match skipBlanks rest with
        | '\x7d' :: rest => some ([(name, value)], rest)
        | ',' :: rest =>
          let (pairs, rest) ← fieldsWithin steps depth rest
          some ((name, value) :: pairs, rest)
        | _ => none
      | _ => none
    | _ => none

end

/-- The value of a text with at most `depth` nested levels. Objects hold all their names as written. -/
def readWritten? (depth : Nat) (text : List Char) : Option Json :=
  match valueWithin (2 * text.length + 1) depth text with
  | some (value, rest) => if (skipBlanks rest).isEmpty then some value else none
  | none => none

mutual

/-- The value in which every object has each name once. -/
def merged : Json → Json
  | array items => array (mergedItems items)
  | object fields => object (Fields.ofPairs (mergedFields fields))
  | json => json

def mergedItems : List Json → List Json
  | [] => []
  | item :: rest => merged item :: mergedItems rest

def mergedFields : List (String × Json) → List (String × Json)
  | [] => []
  | (name, value) :: rest => (name, merged value) :: mergedFields rest

end

def read? (depth : Nat) (text : List Char) : Option Json :=
  (readWritten? depth text).map merged

end QueryCheck.Json

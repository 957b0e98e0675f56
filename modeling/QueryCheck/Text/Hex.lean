/-!
# Bytes in base sixteen

Each byte is written as two lower case digits.
-/

namespace QueryCheck.Text

def hexDigit (n : Nat) : Char :=
  if n < 10 then Char.ofNat (0x30 + n) else Char.ofNat (0x57 + n)

def hexText (bytes : List UInt8) : List Char :=
  bytes.flatMap fun byte => [hexDigit (byte.toNat / 16), hexDigit (byte.toNat % 16)]

def hexValue? (c : Char) : Option Nat :=
  if c.isDigit then some (c.toNat - 0x30)
  else if 'a' ≤ c ∧ c ≤ 'f' then some (c.toNat - 0x57)
  else if 'A' ≤ c ∧ c ≤ 'F' then some (c.toNat - 0x37)
  else none

def readHex? : List Char → Option (List UInt8)
  | [] => some []
  | high :: low :: rest =>
    match hexValue? high, hexValue? low, readHex? rest with
    | some h, some l, some bytes => some (UInt8.ofNat (h * 16 + l) :: bytes)
    | _, _, _ => none
  | [_] => none

def hexNat (n : Nat) : List Char :=
  Nat.toDigits 16 n

def ofRadix? (base : Nat) (digits : List Char) : Option Nat :=
  if digits.isEmpty then none
  else
    digits.foldl (fun value c =>
      match value, hexValue? c with
      | some n, some d => if d < base then some (n * base + d) else none
      | _, _ => none) (some 0)

end QueryCheck.Text

/-!
# Bytes in base sixty-four

Four characters stand for three bytes. The last group is filled up with `=`, and the bits that it does
not use are zero; any other text is refused.
-/

namespace QueryCheck.Text

def base64Value? (c : Char) : Option Nat :=
  if 'A' ≤ c ∧ c ≤ 'Z' then some (c.toNat - 0x41)
  else if 'a' ≤ c ∧ c ≤ 'z' then some (c.toNat - 0x61 + 26)
  else if c.isDigit then some (c.toNat - 0x30 + 52)
  else if c = '+' then some 62
  else if c = '/' then some 63
  else none

def groupBytes (a b c d : Nat) : List UInt8 :=
  [UInt8.ofNat (a * 4 + b / 16), UInt8.ofNat (b % 16 * 16 + c / 4), UInt8.ofNat (c % 4 * 64 + d)]

def readBase64? : List Char → Option (List UInt8)
  | [] => some []
  | [a, b, '=', '='] =>
    match base64Value? a, base64Value? b with
    | some a, some b => if b % 16 = 0 then some [UInt8.ofNat (a * 4 + b / 16)] else none
    | _, _ => none
  | [a, b, c, '='] =>
    match base64Value? a, base64Value? b, base64Value? c with
    | some a, some b, some c => if c % 4 = 0 then some ((groupBytes a b c 0).take 2) else none
    | _, _, _ => none
  | a :: b :: c :: d :: rest =>
    match base64Value? a, base64Value? b, base64Value? c, base64Value? d, readBase64? rest with
    | some a, some b, some c, some d, some bytes => some (groupBytes a b c d ++ bytes)
    | _, _, _, _, _ => none
  | _ => none

end QueryCheck.Text

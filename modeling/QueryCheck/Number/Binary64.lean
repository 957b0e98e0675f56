import QueryCheck.Number.Digits

/-!
# Double precision numbers

The exact value behind the bits of a number, the order of two numbers, the remainder of a division
and the reading of decimal texts. `nearest` is the only place where a decimal becomes a double.
-/

namespace QueryCheck.Binary64

def signBit (x : Float) : Bool :=
  x.toBits >>> 63 == 1

/-- A finite magnitude is `mantissa * 2 ^ exponent`. -/
structure Magnitude where
  mantissa : Nat
  exponent : Int
deriving Repr, DecidableEq

def magnitude (x : Float) : Magnitude :=
  let biased := ((x.toBits >>> 52) &&& 0x7FF).toNat
  let fraction := (x.toBits &&& 0xFFFFFFFFFFFFF).toNat
  if biased = 0 then ⟨fraction, -1074⟩ else ⟨Nat.pow 2 52 + fraction, (biased : Int) - 1075⟩

/-- The order of two numbers; a NaN has no order, and the two zeros are equal. -/
def order (x y : Float) : Option Ordering :=
  if x < y then some .lt
  else if y < x then some .gt
  else if x == y then some .eq
  else none

def infinity : Float :=
  Float.ofBits 0x7FF0000000000000

def nan : Float :=
  Float.ofBits 0x7FF8000000000000

def withSign (negative : Bool) (x : Float) : Float :=
  if negative then -x else x

def abs (x : Float) : Float :=
  if signBit x then -x else x

/-- The double nearest to `digits * 10 ^ exponent`. A value far outside the range is decided by its
number of digits, so that no huge power is formed. -/
def nearest (digits : Nat) (exponent : Int) : Float :=
  let length : Int := (natText digits).length
  if digits = 0 then 0
  else if length + exponent < -330 then 0
  else if 310 < length + exponent then infinity
  else Float.ofScientific digits (exponent < 0) exponent.natAbs

/-- The remainder of the division truncated toward zero, with the sign of the dividend. The
remainder of finite numbers is exact; there is none without a finite dividend or with a zero divisor. -/
def remainder (x y : Float) : Float :=
  if !x.isFinite || y.isNaN || y == 0 then nan
  else if !y.isFinite then x
  else
    let dividend := magnitude x
    let divisor := magnitude y
    let exponent := min dividend.exponent divisor.exponent
    let rest := dividend.mantissa * Nat.pow 2 (dividend.exponent - exponent).toNat %
      (divisor.mantissa * Nat.pow 2 (divisor.exponent - exponent).toNat)
    let size :=
      if exponent < 0 then Float.ofInt rest * powerOfTwo exponent
      else Float.ofInt (rest * Nat.pow 2 exponent.toNat)
    withSign (signBit x) size
where
  /-- A whole number below `2 ^ 53` times this power is exact in two steps, the first of which stays
  normal. -/
  powerOfTwo (exponent : Int) : Float :=
    if exponent < -1022 then Float.ofBits (UInt64.ofNat (Nat.pow 2 (exponent + 1074).toNat))
    else Float.ofBits (UInt64.ofNat (exponent + 1023).toNat <<< 52)

/-- The nearest whole number, a half going away from zero. -/
def roundAway (x : Float) : Float :=
  x.round

/-- The parts of a decimal text: the digits before and after the point, and the exponent. -/
structure DecimalParts where
  whole : List Char
  fraction : List Char
  exponent : Int

def DecimalParts.value (parts : DecimalParts) : Float :=
  nearest (ofDigits (parts.whole ++ parts.fraction)) (parts.exponent - parts.fraction.length)

/-- A decimal text without sign: digits with at most one point and a digit on one side of it, and an
optional signed exponent. -/
def decimalParts? (text : List Char) : Option DecimalParts :=
  let (whole, afterWhole) := spanDigits text
  let (fraction, afterFraction) :=
    match afterWhole with
    | '.' :: rest => spanDigits rest
    | _ => ([], afterWhole)
  if whole.isEmpty && fraction.isEmpty then none
  else
    match afterFraction with
    | [] => some ⟨whole, fraction, 0⟩
    | c :: exponent =>
      if c = 'e' || c = 'E' then
        (readInt exponent).map fun n => ⟨whole, fraction, n⟩
      else none

def lowerAscii (text : List Char) : List Char :=
  text.map Char.toLower

/-- Number texts: decimals, `inf`, `infinity` and `nan` in any case, behind at most one sign. -/
def read? (text : List Char) : Option Float :=
  match text with
  | '-' :: rest => (unsigned? rest).map fun x => -x
  | '+' :: rest => unsigned? rest
  | _ => unsigned? text
where
  unsigned? (text : List Char) : Option Float :=
    let word := lowerAscii text
    if word = "inf".toList || word = "infinity".toList then some infinity
    else if word = "nan".toList then some nan
    else (decimalParts? text).map DecimalParts.value

end QueryCheck.Binary64

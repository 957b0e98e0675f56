import QueryCheck.Number.Decimal.Arithmetic

/-!
# Reading scaled decimals

Plain texts have digits with at most one point, behind at most one sign; an underscore may follow the
first digit. Fraction digits that do not fit are dropped, rounding half up on the first of them. A
text with an exponent moves the point of its mantissa.
-/

namespace QueryCheck.Decimal

structure Reading where
  coefficient : Nat
  scale : Nat
  sawDigit : Bool
  sawPoint : Bool

def Reading.start : Reading :=
  ⟨0, 0, false, false⟩

def Reading.push (r : Reading) (c : Char) : Reading :=
  { r with
    coefficient := r.coefficient * 10 + digitValue c
    scale := if r.sawPoint then r.scale + 1 else 0
    sawDigit := true }

/-- The digits so far, rounded half up by the first dropped one; a coefficient that thereby outgrows
96 bits gives up a place. What follows the dropped digit is not looked at. -/
def Reading.roundedBy (r : Reading) (negative : Bool) (dropped : Nat) : Option Decimal :=
  if dropped < 5 then ofParts? negative r.coefficient r.scale
  else if r.coefficient + 1 < coefficientBound then ofParts? negative (r.coefficient + 1) r.scale
  else if r.scale = 0 then none
  else ofParts? negative ((r.coefficient + 5) / 10) (r.scale - 1)

def Reading.finish (r : Reading) (negative : Bool) : Option Decimal :=
  if r.sawDigit then ofParts? negative r.coefficient r.scale else none

/-- A dropped digit rounds; another mark of a number counts as zero, and the rest is refused. -/
def Reading.dropChar (r : Reading) (negative : Bool) (c : Char) : Option Decimal :=
  if c.isDigit then r.roundedBy negative (digitValue c)
  else if c = '_' || c = '.' then r.roundedBy negative 0
  else none

/-- The text ends at its first dropped character; an underscore stands for the one after it. -/
def Reading.drop (r : Reading) (negative : Bool) : List Char → Option Decimal
  | '_' :: c :: _ => r.dropChar negative c
  | '_' :: [] => r.finish negative
  | c :: _ => r.dropChar negative c
  | [] => r.finish negative

def Reading.run (negative : Bool) (r : Reading) : List Char → Option Decimal
  | [] => r.finish negative
  | c :: rest =>
    if r.sawPoint && r.scale = 28 then r.drop negative (c :: rest)
    else if c.isDigit then
      if coefficientBound ≤ (r.push c).coefficient then
        if r.sawPoint then r.roundedBy negative (digitValue c) else none
      else (r.push c).run negative rest
    else if c = '.' && !r.sawPoint then
      { r with sawPoint := true }.run negative rest
    else if c = '_' && r.sawDigit then r.run negative rest
    else none

def readPlain? : List Char → Option Decimal
  | '-' :: rest => Reading.start.run true rest
  | '+' :: rest => Reading.start.run false rest
  | text => Reading.start.run false text

/-- The places reduced to `scale`, by the first dropped digit, a half going up. -/
def reduceTo (d : Decimal) (scale : Nat) : Nat :=
  let dropped := d.scale - scale
  let kept := d.coefficient / Nat.pow 10 dropped
  if dropped ≠ 0 ∧ 5 ≤ d.coefficient / Nat.pow 10 (dropped - 1) % 10 then kept + 1 else kept

def normalize (d : Decimal) : Option Decimal :=
  if d.isZero then some zero
  else
    let dropped := (((List.range (d.scale + 1)).filter fun places =>
      d.coefficient % Nat.pow 10 places == 0).getLast?).getD 0
    ofSigned? d.negative (d.coefficient / Nat.pow 10 dropped) (d.scale - dropped)

/-- `d * 10 ^ exponent` for an exponent above the scale, multiplied in steps of nineteen digits. -/
def scaleUp (d : Decimal) (exponent : Nat) : Option Decimal :=
  let times (d : Decimal) (places : Nat) : Option Decimal :=
    (ofParts? false (Nat.pow 10 places) 0).bind d.mul
  if exponent < 19 then (times d exponent).bind normalize
  else
    ((times d 19).bind fun shifted =>
      if exponent = 19 then some shifted else times shifted (exponent - 19)).bind normalize

/-- An exponent has digits only, behind at most one plus sign. -/
def exponent? (text : List Char) : Option Nat :=
  match text with
  | '+' :: digits => readNat digits
  | digits => readNat digits

def readScientific? (text : List Char) : Option Decimal :=
  let isMark (c : Char) : Bool := c == 'e' || c == 'E'
  match text.dropWhile fun c => !isMark c with
  | [] => none
  | _ :: exponentText =>
    (readPlain? (text.takeWhile fun c => !isMark c)).bind fun base =>
      match exponentText with
      | '-' :: digits =>
        (exponent? digits).bind fun exponent =>
          if 28 < exponent then none
          else if 28 < base.scale + exponent then
            ofSigned? base.negative (base.reduceTo (28 - exponent)) 28
          else ofSigned? base.negative base.coefficient (base.scale + exponent)
      | _ =>
        (exponent? exponentText).bind fun exponent =>
          if exponent ≤ base.scale then
            ofSigned? base.negative base.coefficient (base.scale - exponent)
          else if 28 < exponent then none
          else base.scaleUp exponent

def read? (text : List Char) : Option Decimal :=
  (readPlain? text).orElse fun _ => readScientific? text

end QueryCheck.Decimal

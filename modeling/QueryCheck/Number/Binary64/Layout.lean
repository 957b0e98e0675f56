import QueryCheck.Number.Binary64.Shortest

/-!
# Layout of double precision numbers

How the shortest digits of a number are written. The decisions of one written form are the fields of
a `Layout`; each form that the program writes has one value of it.
-/

namespace QueryCheck.Binary64

structure Layout where
  /-- The least exponent of the leading digit that is written positionally. -/
  plainFrom : Option Int
  /-- Exponents of the leading digit from here on are written with an exponent. -/
  plainBelow : Option Int
  /-- Whole numbers end in `.0`. -/
  pointZero : Bool
  /-- A positive exponent carries its sign. -/
  exponentPlus : Bool
  tie : Tie
  nanText : String
  infinityText : String

/-- Diagnostic form: always with a point or an exponent. -/
def Layout.diagnostic : Layout where
  plainFrom := some (-4)
  plainBelow := some 16
  pointZero := true
  exponentPlus := false
  tie := .upward
  nanText := "NaN"
  infinityText := "inf"

/-- Plain form: never with an exponent. -/
def Layout.plain : Layout where
  plainFrom := none
  plainBelow := none
  pointZero := false
  exponentPlus := false
  tie := .upward
  nanText := "NaN"
  infinityText := "inf"

/-- The digits of the value, `lead` being the exponent of the first. -/
def Layout.positional (layout : Layout) (digits : List Char) (lead : Int) : List Char :=
  let count : Int := digits.length
  if lead < 0 then
    '0' :: '.' :: List.replicate (-lead - 1).toNat '0' ++ digits
  else if count ≤ lead + 1 then
    digits ++ List.replicate (lead + 1 - count).toNat '0' ++
      (if layout.pointZero then ['.', '0'] else [])
  else
    digits.take (lead + 1).toNat ++ '.' :: digits.drop (lead + 1).toNat

def Layout.scientific (layout : Layout) (digits : List Char) (lead : Int) : List Char :=
  let mantissa :=
    match digits with
    | first :: second :: rest => first :: '.' :: second :: rest
    | _ => digits
  mantissa ++ 'e' :: (if layout.exponentPlus && decide (0 ≤ lead) then ['+'] else []) ++
    intText lead

def Layout.isPlain (layout : Layout) (lead : Int) : Bool :=
  (match layout.plainFrom with
    | some least => decide (least ≤ lead)
    | none => true) &&
  match layout.plainBelow with
    | some limit => decide (lead < limit)
    | none => true

def Layout.magnitudeText (layout : Layout) (m : Magnitude) : List Char :=
  if m.mantissa = 0 then
    if layout.pointZero then ['0', '.', '0'] else ['0']
  else
    let d := m.shortest layout.tie
    let digits := natText d.digits
    let lead := d.exponent + digits.length - 1
    if layout.isPlain lead then layout.positional digits lead
    else layout.scientific digits lead

def Layout.text (layout : Layout) (x : Float) : List Char :=
  if x.isNaN then layout.nanText.toList
  else
    (if signBit x then ['-'] else []) ++
      if x.isFinite then layout.magnitudeText (magnitude x) else layout.infinityText.toList

end QueryCheck.Binary64

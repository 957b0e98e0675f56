import QueryCheck.Number.Binary64.Layout
import QueryCheck.Text.Hex
import QueryCheck.Text.Printable
import QueryCheck.Yaml.Token

/-!
# YAML values

What nodes stand for once aliases and tags are resolved. Whole numbers lie between the least signed and
the largest unsigned word of 64 bits. A tag that is not one of the standard ones stays with its value.
-/

namespace QueryCheck.Yaml

inductive Value where
  | null
  | bool (value : Bool)
  | integer (value : Int)
  | float (value : Float)
  | string (text : String)
  | sequence (items : List Value)
  | mapping (entries : List (Value × Value))
  | tagged (tag : String) (value : Value)
deriving Inhabited

/-! ## Plain text -/

def isNullText (text : String) : Bool :=
  ["", "null", "Null", "NULL", "~"].contains text

def bool? (text : String) : Option Bool :=
  if ["true", "True", "TRUE"].contains text then some true
  else if ["false", "False", "FALSE"].contains text then some false
  else none

def dropPlus : List Char → List Char
  | '+' :: rest => rest
  | text => text

def dropSign : List Char → List Char
  | '+' :: rest => rest
  | '-' :: rest => rest
  | text => text

/-- A zero in front of further digits makes a text, not a number. -/
def hasLeadingZero (text : List Char) : Bool :=
  match dropSign text with
  | '0' :: rest => !rest.isEmpty && rest.all Char.isDigit
  | _ => false

def radixNat? : List Char → Option Nat
  | '0' :: 'x' :: digits => Text.ofRadix? 16 digits
  | '0' :: 'o' :: digits => Text.ofRadix? 8 digits
  | '0' :: 'b' :: digits => Text.ofRadix? 2 digits
  | _ => none

def unsigned? (text : List Char) : Option Nat :=
  let digits := dropPlus text
  (radixNat? digits).orElse fun _ => if hasLeadingZero text then none else readNat digits

def negative? : List Char → Option Nat
  | '-' :: digits =>
    (radixNat? digits).orElse fun _ => if hasLeadingZero ('-' :: digits) then none else readNat digits
  | _ => none

inductive WholeNumber where
  | fits (value : Int)
  /-- A number of 128 bits that does not fit 64. -/
  | wide
  | notWhole

def wholeNumber (text : List Char) : WholeNumber :=
  match unsigned? text, negative? text with
  | some n, _ =>
    if n < UInt64.size then .fits n
    else if n < UInt64.size * UInt64.size then .wide
    else .notWhole
  | none, some n =>
    if n ≤ int64Bound then .fits (-n)
    else if n ≤ int64Bound * UInt64.size then .wide
    else .notWhole
  | none, none => .notWhole

def float? (text : List Char) : Option Float :=
  let word := String.ofList text
  let positive := String.ofList (dropPlus text)
  if text.head? == some '+' && (text.drop 1).head?.any (fun c => c == '+' || c == '-') then none
  else if [".inf", ".Inf", ".INF"].contains positive then some Binary64.infinity
  else if ["-.inf", "-.Inf", "-.INF"].contains word then some (-Binary64.infinity)
  else if [".nan", ".NaN", ".NAN"].contains word then some Binary64.nan
  else (Binary64.read? (dropPlus text)).filter Float.isFinite

/-- The value of plain text without tag; none for a whole number that is too wide. -/
def Value.ofPlain (text : String) : Option Value :=
  if isNullText text then some .null
  else
    match bool? text, wholeNumber text.toList with
    | some b, _ => some (.bool b)
    | none, .fits n => some (.integer n)
    | none, .wide => none
    | none, .notWhole =>
      if hasLeadingZero text.toList then some (.string text)
      else
        match float? text.toList with
        | some x => some (.float x)
        | none => some (.string text)

/-! ## Standard tags -/

def standardTag (name : String) : Octets :=
  octetsOfAscii ("tag:yaml.org,2002:".toList ++ name.toList)

def tagMark : UInt8 := 0x21

def isMarked (tag : Octets) : Bool :=
  tag.head? == some tagMark

/-- The value of a scalar whose tag does not stay with it. The tags of four types convert any text, other
tags leave it as it is. -/
def Value.ofScalar (tag : Option Octets) (text : String) (plain : Bool) : Option Value :=
  match tag with
  | none => if plain then ofPlain text else some (.string text)
  | some tag =>
    if tag = standardTag "bool" then (bool? text).map .bool
    else if tag = standardTag "int" then
      match wholeNumber text.toList with
      | .fits n => some (.integer n)
      | _ => none
    else if tag = standardTag "float" then (float? text.toList).map .float
    else if tag = standardTag "null" then
      if text ≠ "" ∧ isNullText text then some .null else none
    else if plain ∧ isMarked tag then ofPlain text
    else some (.string text)

/-! ## Equality -/

def sameFloat (x y : Float) : Bool :=
  x == y || (x.isNaN && y.isNaN)

namespace Value

mutual

/-- Equality of mapping keys: the two zeros are equal, and so are two numbers that are none; entries may
be in any order. -/
def same : Value → Value → Bool
  | null, null => true
  | bool a, bool b => a == b
  | integer a, integer b => a == b
  | float a, float b => sameFloat a b
  | string a, string b => a == b
  | sequence as, sequence bs => sameItems as bs
  | mapping as, mapping bs => as.length == bs.length && coveredBy as bs
  | tagged tagA a, tagged tagB b => tagA == tagB && same a b
  | _, _ => false

def sameItems : List Value → List Value → Bool
  | [], [] => true
  | a :: as, b :: bs => same a b && sameItems as bs
  | _, _ => false

def coveredBy : List (Value × Value) → List (Value × Value) → Bool
  | [], _ => true
  | (key, value) :: rest, bs =>
    bs.any (fun entry => same key entry.1 && same value entry.2) && coveredBy rest bs

end

/-! ## Written forms -/

def floatLayout : Binary64.Layout where
  plainFrom := some (-5)
  plainBelow := some 16
  pointZero := true
  exponentPlus := false
  tie := .toEven
  nanText := ".nan"
  infinityText := ".inf"

def tagChars (tag : String) : List Char :=
  '!' :: tag.toList

mutual

def diagnostic : Value → List Char
  | null => "Null".toList
  | bool true => "Bool(true)".toList
  | bool false => "Bool(false)".toList
  | integer n => "Number(".toList ++ intText n ++ [')']
  | float x => "Number(".toList ++ floatLayout.text x ++ [')']
  | string text => "String(".toList ++ Text.quoted text.toList ++ [')']
  | sequence items => "Sequence [".toList ++ diagnosticItems items ++ [']']
  | mapping entries => "Mapping \x7b".toList ++ diagnosticEntries entries ++ ['\x7d']
  | tagged tag value =>
    "TaggedValue \x7b tag: ".toList ++ tagChars tag ++ ", value: ".toList ++ diagnostic value ++
      [' ', '\x7d']

def diagnosticItems : List Value → List Char
  | [] => []
  | [item] => diagnostic item
  | item :: rest => diagnostic item ++ ',' :: ' ' :: diagnosticItems rest

/-- Keys of simple types have no constructor. -/
def diagnosticKey : Value → List Char
  | bool true => "true".toList
  | bool false => "false".toList
  | integer n => intText n
  | float x => floatLayout.text x
  | string text => Text.quoted text.toList
  | null => "Null".toList
  | sequence items => "Sequence [".toList ++ diagnosticItems items ++ [']']
  | mapping entries => "Mapping \x7b".toList ++ diagnosticEntries entries ++ ['\x7d']
  | tagged tag value =>
    "TaggedValue \x7b tag: ".toList ++ tagChars tag ++ ", value: ".toList ++ diagnostic value ++
      [' ', '\x7d']

def diagnosticEntries : List (Value × Value) → List Char
  | [] => []
  | [(key, value)] => diagnosticKey key ++ ':' :: ' ' :: diagnostic value
  | (key, value) :: rest =>
    diagnosticKey key ++ ':' :: ' ' :: diagnostic value ++ ',' :: ' ' :: diagnosticEntries rest

end

end Value

end QueryCheck.Yaml

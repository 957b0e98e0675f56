import QueryCheck.Json
import QueryCheck.Number.Binary64.Layout
import QueryCheck.Text.Hex

/-!
# Writing JSON

The compact form has no blanks; the indented form puts every item on a line of its own, two blanks per
level. Fields are written in their order.
-/

namespace QueryCheck.Json

/-- Doubles have a point or an exponent; the exponent carries its sign. -/
def numberLayout : Binary64.Layout where
  plainFrom := some (-5)
  plainBelow := some 16
  pointZero := true
  exponentPlus := true
  tie := .toEven
  nanText := "NaN"
  infinityText := "inf"

def escapedChar (c : Char) : List Char :=
  if c = '"' || c = '\\' then ['\\', c]
  else if c = '\n' then ['\\', 'n']
  else if c = '\r' then ['\\', 'r']
  else if c = '\t' then ['\\', 't']
  else if c.toNat = 8 then ['\\', 'b']
  else if c.toNat = 12 then ['\\', 'f']
  else if c.toNat < 32 then
    ['\\', 'u', '0', '0', Text.hexDigit (c.toNat / 16), Text.hexDigit (c.toNat % 16)]
  else [c]

def quotedText (text : List Char) : List Char :=
  '"' :: text.flatMap escapedChar ++ ['"']

mutual

def compactChars : Json → List Char
  | null => "null".toList
  | bool true => "true".toList
  | bool false => "false".toList
  | integer n => intText n
  | float x => numberLayout.text x
  | string text => quotedText text.toList
  | array items => '[' :: compactItems items ++ [']']
  | object fields => '\x7b' :: compactFields fields ++ ['\x7d']

def compactItems : List Json → List Char
  | [] => []
  | [item] => compactChars item
  | item :: rest => compactChars item ++ ',' :: compactItems rest

def compactFields : List (String × Json) → List Char
  | [] => []
  | [(name, value)] => quotedText name.toList ++ ':' :: compactChars value
  | (name, value) :: rest =>
    quotedText name.toList ++ ':' :: compactChars value ++ ',' :: compactFields rest

end

def compact (json : Json) : String :=
  String.ofList json.compactChars

def lineBreak (level : Nat) : List Char :=
  '\n' :: List.replicate (2 * level) ' '

mutual

def indentedChars (level : Nat) : Json → List Char
  | array [] => ['[', ']']
  | array items => '[' :: indentedItems (level + 1) items ++ lineBreak level ++ [']']
  | object [] => ['\x7b', '\x7d']
  | object fields => '\x7b' :: indentedFields (level + 1) fields ++ lineBreak level ++ ['\x7d']
  | null => "null".toList
  | bool true => "true".toList
  | bool false => "false".toList
  | integer n => intText n
  | float x => numberLayout.text x
  | string text => quotedText text.toList

def indentedItems (level : Nat) : List Json → List Char
  | [] => []
  | [item] => lineBreak level ++ indentedChars level item
  | item :: rest =>
    lineBreak level ++ indentedChars level item ++ ',' :: indentedItems level rest

def indentedFields (level : Nat) : List (String × Json) → List Char
  | [] => []
  | [(name, value)] =>
    lineBreak level ++ quotedText name.toList ++ ':' :: ' ' :: indentedChars level value
  | (name, value) :: rest =>
    lineBreak level ++ quotedText name.toList ++ ':' :: ' ' :: indentedChars level value ++
      ',' :: indentedFields level rest

end

def indented (json : Json) : String :=
  String.ofList (json.indentedChars 0)

end QueryCheck.Json

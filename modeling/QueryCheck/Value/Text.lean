import QueryCheck.Number.Binary64.Layout
import QueryCheck.Text.Hex
import QueryCheck.Value

/-!
# Values as readers see them

The form in which reports show a value: strings stand between single quotes, with a backslash before a
quote or a backslash; temporal values have no quotes.
-/

namespace QueryCheck.Value

def escapedText (text : List Char) : List Char :=
  text.flatMap fun c => if c = '\\' ∨ c = '\x27' then ['\\', c] else [c]

mutual

def chars : Value → List Char
  | null => "null".toList
  | bool true => "true".toList
  | bool false => "false".toList
  | int64 n => intText n.toInt
  | float64 x => Binary64.Layout.diagnostic.text x
  | numeric d => d.text
  | string text => '\x27' :: escapedText text.toList ++ ['\x27']
  | bytes content => 'b' :: '\x27' :: Text.hexText content ++ ['\x27']
  | date d => d.text
  | datetime dt => dt.text
  | time t => t.text
  | timestamp ts => ts.text
  | array items => '[' :: itemChars items ++ [']']
  | struct fields => '\x7b' :: fieldChars fields ++ ['\x7d']

def itemChars : List Value → List Char
  | [] => []
  | [item] => item.chars
  | item :: rest => item.chars ++ ',' :: ' ' :: itemChars rest

def fieldChars : List (String × Value) → List Char
  | [] => []
  | [(name, value)] => name.toList ++ ':' :: ' ' :: value.chars
  | (name, value) :: rest => name.toList ++ ':' :: ' ' :: value.chars ++ ',' :: ' ' :: fieldChars rest

end

def text (v : Value) : String :=
  String.ofList v.chars

def rowText (row : Row) : String :=
  (struct row).text

end QueryCheck.Value

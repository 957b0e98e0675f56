import QueryCheck.Text.Basic
import QueryCheck.Text.Hex
import QueryCheck.Toml.Space

/-!
# Quoted texts and keys

Double quotes hold escapes and single quotes do not. Three quotes hold a text of several lines; a line
end directly behind them does not belong to it, and up to two quotes may stand before the three that
close it.
-/

namespace QueryCheck.Toml

open Text (Reader)

def codePoint (width : Nat) : Reader Char := fun text =>
  let digits := text.take width
  if digits.length < width then none
  else
    (Text.ofRadix? 16 digits).bind fun n =>
      if n.isValidChar then some (Char.ofNat n, text.drop width) else none

def escape : Reader Char
  | 'b' :: rest => some (Char.ofNat 8, rest)
  | 't' :: rest => some ('\t', rest)
  | 'n' :: rest => some ('\n', rest)
  | 'f' :: rest => some (Char.ofNat 12, rest)
  | 'r' :: rest => some ('\r', rest)
  | '"' :: rest => some ('"', rest)
  | '\\' :: rest => some ('\\', rest)
  | 'u' :: rest => codePoint 4 rest
  | 'U' :: rest => codePoint 8 rest
  | _ => none

/-- The text up to a double quote, in one line; every step takes at least one character. -/
def escapedBody : Nat → Reader (List Char)
  | 0, _ => none
  | steps + 1, text =>
    match text with
    | [] => none
    | '"' :: rest => some ([], rest)
    | '\\' :: rest => do
      let (c, rest) ← escape rest
      let (chars, rest) ← escapedBody steps rest
      some (c :: chars, rest)
    | c :: rest =>
      if isPlain c then do
        let (chars, rest) ← escapedBody steps rest
        some (c :: chars, rest)
      else none

def literalBody : Reader (List Char) := fun text =>
  let body := text.takeWhile fun c => isPlain c && c != '\x27'
  match text.drop body.length with
  | '\x27' :: rest => some (body, rest)
  | _ => none

/-- The quotes that stand behind three of them and belong to the text, at most two. -/
def spareQuotes (quote : Char) (text : List Char) : List Char × List Char :=
  let spare := (text.takeWhile (· == quote)).take 2
  (spare, text.drop spare.length)

/-- A backslash at the end of a line drops the line end and all space behind it. -/
def afterFold (text : List Char) : Option (List Char) :=
  (afterNewline (skipBlanks text)).map skipSpace

def escapedLines : Nat → Reader (List Char)
  | 0, _ => none
  | steps + 1, text =>
    match text with
    | [] => none
    | '"' :: '"' :: '"' :: rest => some (spareQuotes '"' rest)
    | '\\' :: rest =>
      match afterFold rest with
      | some rest => escapedLines steps rest
      | none => do
        let (c, rest) ← escape rest
        let (chars, rest) ← escapedLines steps rest
        some (c :: chars, rest)
    | c :: rest =>
      match afterNewline text with
      | some rest => do
        let (chars, rest) ← escapedLines steps rest
        some ('\n' :: chars, rest)
      | none =>
        if isPlain c then do
          let (chars, rest) ← escapedLines steps rest
          some (c :: chars, rest)
        else none

def literalLines : Reader (List Char)
  | '\x27' :: '\x27' :: '\x27' :: rest => some (spareQuotes '\x27' rest)
  | '\r' :: '\n' :: rest => (literalLines rest).map fun (chars, rest) => ('\n' :: chars, rest)
  | c :: rest =>
    if c == '\n' || isPlain c then
      (literalLines rest).map fun (chars, rest) => (c :: chars, rest)
    else none
  | [] => none

def skipFirstNewline (text : List Char) : List Char :=
  (afterNewline text).getD text

def quotedLine : Reader String
  | '"' :: rest =>
    (escapedBody (rest.length + 1) rest).map fun (chars, rest) => (String.ofList chars, rest)
  | '\x27' :: rest => (literalBody rest).map fun (chars, rest) => (String.ofList chars, rest)
  | _ => none

def quoted : Reader String
  | '"' :: '"' :: '"' :: rest =>
    (escapedLines (rest.length + 1) (skipFirstNewline rest)).map fun (chars, rest) =>
      (String.ofList chars, rest)
  | '\x27' :: '\x27' :: '\x27' :: rest =>
    (literalLines (skipFirstNewline rest)).map fun (chars, rest) => (String.ofList chars, rest)
  | text => quotedLine text

/-! ## Keys -/

/-- A name below the names of the tables that hold it, the outermost first. -/
structure Key where
  parents : List String
  name : String

def Key.names (key : Key) : List String :=
  key.parents ++ [key.name]

def isBareKeyChar (c : Char) : Bool :=
  c.isAlphanum || c == '_' || c == '-'

def keyName : Reader String := fun text =>
  match text with
  | '"' :: _ => quotedLine text
  | '\x27' :: _ => quotedLine text
  | _ =>
    let name := text.takeWhile isBareKeyChar
    if name.isEmpty then none else some (String.ofList name, text.drop name.length)

def keyWithin : Nat → Reader Key
  | 0, _ => none
  | steps + 1, text => do
    let (name, rest) ← keyName (skipBlanks text)
    match skipBlanks rest with
    | '.' :: rest =>
      let (key, rest) ← keyWithin steps rest
      some (⟨name :: key.parents, key.name⟩, rest)
    | rest => some (⟨[], name⟩, rest)

def key : Reader Key := fun text =>
  keyWithin (text.length + 1) text

end QueryCheck.Toml

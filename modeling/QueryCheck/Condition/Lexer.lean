import QueryCheck.Condition.ParseError
import QueryCheck.Number.Digits
import QueryCheck.Text.Basic
import QueryCheck.Text.Numeric

/-!
# Tokens of a condition text

A token is read at the first character that is not blank, as long as it can be, and says how many
characters it takes. The last token is the ending, behind the last character.
-/

namespace QueryCheck.Condition.Lexer

/-- What a backslash and this character stand for; an unknown escape stands for itself. -/
def unescape (c : Char) : List Char :=
  match c with
  | '"' => ['"']
  | '\x27' => ['\x27']
  | '\\' => ['\\']
  | 'n' => ['\n']
  | 't' => ['\t']
  | other => ['\\', other]

/-- The content of a string behind its opening quote, and the characters up to its closing quote. -/
def stringBody (quote : Char) : List Char → Except Fault (List Char × Nat)
  | [] => .error .unterminatedString
  | ['\\'] => .error .unterminatedEscape
  | '\\' :: c :: rest =>
    match stringBody quote rest with
    | .ok (content, width) => .ok (unescape c ++ content, width + 2)
    | .error fault => .error fault
  | c :: rest =>
    if c = quote then .ok ([], 1)
    else
      match stringBody quote rest with
      | .ok (content, width) => .ok (c :: content, width + 1)
      | .error fault => .error fault

/-- The mark, sign and digits of an exponent; empty when no digit follows. -/
def exponentLexeme (text : List Char) : List Char :=
  match text with
  | mark :: rest =>
    if mark = 'e' ∨ mark = 'E' then
      let (sign, rest) :=
        match rest with
        | '+' :: rest => (['+'], rest)
        | '-' :: rest => (['-'], rest)
        | rest => ([], rest)
      let digits := rest.takeWhile Char.isDigit
      if digits.isEmpty then [] else mark :: sign ++ digits
    else []
  | [] => []

def fractionLexeme (text : List Char) : List Char :=
  match text with
  | '.' :: rest => '.' :: rest.takeWhile Char.isDigit
  | _ => []

def isWordStart (c : Char) : Bool :=
  Text.isAlphabetic c || c == '_'

def isWordPart (c : Char) : Bool :=
  Text.isAlphanumeric c || c == '_'

/-- The token of a number text, a float when it has a point or an exponent. -/
def numberToken (whole fraction exponent : List Char) : Except Fault Token :=
  if fraction.isEmpty && exponent.isEmpty then
    match readInt64 whole with
    | some value => .ok (.integer value)
    | none => .error (.integerOutOfRange (String.ofList whole))
  else .ok (.float (String.ofList (whole ++ fraction ++ exponent)))

def number (text : List Char) : Except Fault (Token × Nat) :=
  let whole := text.takeWhile Char.isDigit
  let afterWhole := text.drop whole.length
  let fraction := fractionLexeme afterWhole
  let afterFraction := afterWhole.drop fraction.length
  let exponent := exponentLexeme afterFraction
  match afterFraction.drop exponent.length with
  | next :: _ =>
    if isWordStart next then .error (.malformedNumber next)
    else (numberToken whole fraction exponent).map (·, whole.length + fraction.length + exponent.length)
  | [] => (numberToken whole fraction exponent).map (·, whole.length + fraction.length + exponent.length)

def startsNumber (text : List Char) : Bool :=
  match text with
  | '.' :: c :: _ => c.isDigit
  | c :: _ => c.isDigit
  | [] => false

def operator (text : List Char) : Option (Token × Nat) :=
  match text with
  | '=' :: '=' :: _ => some (.equal, 2)
  | '!' :: '=' :: _ => some (.notEqual, 2)
  | '<' :: '=' :: _ => some (.lessEqual, 2)
  | '<' :: '>' :: _ => some (.notEqual, 2)
  | '<' :: _ => some (.less, 1)
  | '>' :: '=' :: _ => some (.greaterEqual, 2)
  | '>' :: _ => some (.greater, 1)
  | '+' :: _ => some (.plus, 1)
  | '-' :: _ => some (.minus, 1)
  | '*' :: _ => some (.star, 1)
  | '/' :: _ => some (.slash, 1)
  | '%' :: _ => some (.percent, 1)
  | '(' :: _ => some (.openParen, 1)
  | ')' :: _ => some (.closeParen, 1)
  | '[' :: _ => some (.openBracket, 1)
  | ']' :: _ => some (.closeBracket, 1)
  | ',' :: _ => some (.comma, 1)
  | _ => none

def tokenAt (c : Char) (rest : List Char) : Except Fault (Token × Nat) :=
  let text := c :: rest
  if c = '"' ∨ c = '\x27' then
    match stringBody c rest with
    | .ok (content, width) => .ok (.string (String.ofList content), width + 1)
    | .error fault => .error fault
  else if startsNumber text then number text
  else
    match operator text with
    | some found => .ok found
    | none =>
      if c = '=' then .error .singleEquals
      else if isWordStart c then
        let word := text.takeWhile isWordPart
        .ok (.word (String.ofList word), word.length)
      else .error (.unexpectedCharacter c)

/-- Tokens of the text that starts at `offset`, the first `skip` characters being those of a token that
has been read. -/
def tokensFrom (skip offset : Nat) : List Char → Except ParseError (List Placed)
  | [] => .ok [⟨.ending, offset⟩]
  | c :: rest =>
    match skip with
    | skip + 1 => tokensFrom skip (offset + 1) rest
    | 0 =>
      if Text.isWhitespace c then tokensFrom 0 (offset + 1) rest
      else
        match tokenAt c rest with
        | .error fault => .error ⟨fault, offset⟩
        | .ok (token, width) =>
          match tokensFrom (width - 1) (offset + 1) rest with
          | .ok later => .ok (⟨token, offset⟩ :: later)
          | .error e => .error e

end QueryCheck.Condition.Lexer

namespace QueryCheck.Condition

def tokens (text : List Char) : Except ParseError (List Placed) :=
  Lexer.tokensFrom 0 0 text

end QueryCheck.Condition

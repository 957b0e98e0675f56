import QueryCheck.Condition.Expression
import QueryCheck.Condition.Token

/-!
# Why a condition is refused

Each fault of a condition text, and the words for it.
-/

namespace QueryCheck.Condition

inductive Fault where
  | unterminatedString
  | unterminatedEscape
  | malformedNumber (next : Char)
  | integerOutOfRange (lexeme : String)
  | singleEquals
  | unexpectedCharacter (c : Char)
  | emptyExpression
  | trailing (token : Token)
  | nestedTooDeeply
  | expected (token got : Token)
  | expectedValue (got : Token)
  | unexpectedKeyword (word : String)
  | unknownFunction (name : String)
  | argumentCount (builtin : Builtin) (count : Nat)
  | malformedFloat (lexeme : String)
deriving DecidableEq

def Fault.message : Fault → String
  | unterminatedString => "unterminated string literal"
  | unterminatedEscape => "unterminated escape in string"
  | malformedNumber next => "invalid number literal near '" ++ next.toString ++ "'"
  | integerOutOfRange lexeme => "invalid integer '" ++ lexeme ++ "'"
  | singleEquals => "unexpected '=' (use '==' for equality)"
  | unexpectedCharacter c => "unexpected character '" ++ c.toString ++ "'"
  | emptyExpression => "empty expression"
  | trailing token => "unexpected trailing " ++ token.describe
  | nestedTooDeeply => "expression nested too deeply"
  | expected token got => "expected " ++ token.describe ++ ", got " ++ got.describe
  | expectedValue got => "expected value, got " ++ got.describe
  | unexpectedKeyword word => "unexpected keyword '" ++ word ++ "'"
  | unknownFunction name => "unknown function '" ++ name ++ "'"
  | argumentCount builtin count =>
    builtin.name ++ "() takes " ++ builtin.arityText ++ " argument(s), got " ++ toString count
  | malformedFloat lexeme => "invalid float '" ++ lexeme ++ "'"

/-- A fault and the number of characters before it. -/
structure ParseError where
  fault : Fault
  offset : Nat
deriving DecidableEq

namespace ParseError

def message (e : ParseError) : String :=
  e.fault.message

def text (e : ParseError) : String :=
  e.message ++ " at offset " ++ toString e.offset

end ParseError

end QueryCheck.Condition

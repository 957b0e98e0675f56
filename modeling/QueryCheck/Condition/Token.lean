/-!
# Tokens of conditions

A token with the number of characters before it. Keywords are words; only their place in an expression
tells them apart from column names.
-/

namespace QueryCheck.Condition

inductive Token where
  | word (text : String)
  | string (text : String)
  | integer (value : Int64)
  | float (lexeme : String)
  | openParen
  | closeParen
  | openBracket
  | closeBracket
  | comma
  | equal
  | notEqual
  | less
  | lessEqual
  | greater
  | greaterEqual
  | plus
  | minus
  | star
  | slash
  | percent
  | ending
deriving DecidableEq, Inhabited

namespace Token

/-- How an error message names the token. -/
def describe : Token → String
  | word text => "'" ++ text ++ "'"
  | string text => "string '" ++ text ++ "'"
  | integer value => "number " ++ toString value.toInt
  | float lexeme => "number " ++ lexeme
  | openParen => "'('"
  | closeParen => "')'"
  | openBracket => "'['"
  | closeBracket => "']'"
  | comma => "','"
  | equal => "'=='"
  | notEqual => "'!='"
  | less => "'<'"
  | lessEqual => "'<='"
  | greater => "'>'"
  | greaterEqual => "'>='"
  | plus => "'+'"
  | minus => "'-'"
  | star => "'*'"
  | slash => "'/'"
  | percent => "'%'"
  | ending => "end of expression"

end Token

/-- A token and its distance from the start of the text, in characters. -/
structure Placed where
  token : Token
  offset : Nat
deriving DecidableEq, Inhabited

end QueryCheck.Condition

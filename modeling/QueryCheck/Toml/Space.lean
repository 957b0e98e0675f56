/-!
# Blanks, comments and line ends

A line ends with a line feed, which a carriage return may precede. A comment runs from a number sign to
the end of its line.
-/

namespace QueryCheck.Toml

def isBlank (c : Char) : Bool :=
  c == ' ' || c == '\t'

/-- Of the controls only the tab may stand in comments and texts. -/
def isPlain (c : Char) : Bool :=
  c == '\t' || (32 ≤ c.toNat && c.toNat != 127)

def skipBlanks (text : List Char) : List Char :=
  text.dropWhile isBlank

def afterNewline : List Char → Option (List Char)
  | '\n' :: rest => some rest
  | '\r' :: '\n' :: rest => some rest
  | _ => none

def skipComment : List Char → List Char
  | '#' :: rest => rest.dropWhile isPlain
  | text => text

/-- The next line, when no more than blanks and a comment are left of this one. -/
def nextLine (text : List Char) : Option (List Char) :=
  match skipComment (skipBlanks text) with
  | [] => some []
  | rest => afterNewline rest

def skipSpace : List Char → List Char
  | '\r' :: '\n' :: rest => skipSpace rest
  | c :: rest => if isBlank c || c == '\n' then skipSpace rest else c :: rest
  | [] => []

/-- What comes after blanks, line ends and comments; true where a comment has begun. -/
def skipLines : Bool → List Char → List Char
  | _, '\r' :: '\n' :: rest => skipLines false rest
  | true, c :: rest =>
    if c == '\n' then skipLines false rest
    else if isPlain c then skipLines true rest
    else c :: rest
  | false, c :: rest =>
    if c == '#' then skipLines true rest
    else if isBlank c || c == '\n' then skipLines false rest
    else c :: rest
  | _, [] => []

end QueryCheck.Toml

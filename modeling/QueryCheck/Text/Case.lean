import QueryCheck.Text.CaseContext
import QueryCheck.Text.CaseMap

/-!
# Text in one case

Every character is mapped on its own, but for the capital sigma: at the end of a word it becomes the
final small sigma. A word ends where, case-ignorable characters aside, a cased character stands before
the sigma and none after it.
-/

namespace QueryCheck.Text

/-- The nearest character that is not case-ignorable exists and is cased. -/
def startsCased (text : List Char) : Bool :=
  match text.dropWhile isCaseIgnorable with
  | [] => false
  | c :: _ => isCased c

/-- `before` holds the characters already passed, nearest first. -/
def lowerFrom (before : List Char) : List Char → List Char
  | [] => []
  | c :: rest =>
    let small :=
      if c.toNat = 0x3A3 then
        if startsCased before && !startsCased rest then [Char.ofNat 0x3C2] else [Char.ofNat 0x3C3]
      else lowerChar c
    small ++ lowerFrom (c :: before) rest

def lower (text : List Char) : List Char :=
  lowerFrom [] text

def upper (text : List Char) : List Char :=
  text.flatMap upperChar

end QueryCheck.Text

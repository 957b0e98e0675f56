/-!
# A place in a YAML text

The text that is still to be read, with line, column and the number of octets before it, all from zero.
Columns count characters. A carriage return with a line feed is one line break. A line break is read as
a line feed, the two Unicode separators stay what they are.
-/

namespace QueryCheck.Yaml

def isBlank (c : Char) : Bool :=
  c == ' ' || c == '\t'

def isBreak (c : Char) : Bool :=
  c == '\n' || c == '\r' || c.toNat == 0x85 || c.toNat == 0x2028 || c.toNat == 0x2029

def isGap (c : Char) : Bool :=
  isBlank c || isBreak c

def isWordChar (c : Char) : Bool :=
  c.isAlphanum || c == '_' || c == '-'

/-- What a YAML text may hold; other control characters and the two noncharacters are refused. -/
def isAllowed (c : Char) : Bool :=
  let code := c.toNat
  code == 0x9 || code == 0xA || code == 0xD || decide (0x20 ≤ code ∧ code ≤ 0x7E) || code == 0x85 ||
    decide (0xA0 ≤ code ∧ code ≤ 0xD7FF) || decide (0xE000 ≤ code ∧ code ≤ 0xFFFD) ||
    decide (0x10000 ≤ code)

def octetLength (text : List Char) : Nat :=
  (String.ofList text).utf8ByteSize

structure Cursor where
  rest : List Char
  index : Nat
  line : Nat
  column : Nat

namespace Cursor

def atStart (text : List Char) : Cursor :=
  ⟨text, 0, 0, 0⟩

def peek (c : Cursor) : Option Char :=
  c.rest.head?

def peekAt (c : Cursor) (offset : Nat) : Option Char :=
  c.rest[offset]?

def sees (c : Cursor) (expected : Char) : Bool :=
  c.peek == some expected

def seesIn (c : Cursor) (admits : Char → Bool) : Bool :=
  c.peek.any admits

/-- At the end, or before a blank or line break. -/
def gapAt (c : Cursor) (offset : Nat) : Bool :=
  (c.peekAt offset).all isGap

def atLineEnd (c : Cursor) : Bool :=
  c.peek.all isBreak

def skip (c : Cursor) (count : Nat) : Cursor :=
  ⟨c.rest.drop count, c.index + octetLength (c.rest.take count), c.line, c.column + count⟩

def skipWhile (c : Cursor) (admits : Char → Bool) : Cursor :=
  c.skip (c.rest.takeWhile admits).length

def takeWhile (c : Cursor) (admits : Char → Bool) : List Char × Cursor :=
  (c.rest.takeWhile admits, c.skipWhile admits)

/-- The text of a line break and the start of the next line; nothing elsewhere. -/
def takeBreak (c : Cursor) : List Char × Cursor :=
  match c.rest with
  | '\r' :: '\n' :: rest => (['\n'], ⟨rest, c.index + 2, c.line + 1, 0⟩)
  | d :: rest =>
    if isBreak d then
      ([if d.toNat < 0x2028 then '\n' else d], ⟨rest, c.index + d.utf8Size, c.line + 1, 0⟩)
    else ([], c)
  | [] => ([], c)

def skipBreak (c : Cursor) : Cursor :=
  c.takeBreak.2

def skipComment (c : Cursor) : Cursor :=
  if c.sees '#' then c.skipWhile fun d => !isBreak d else c

def skipRestOfLine (c : Cursor) : Option Cursor :=
  let c := (c.skipWhile isBlank).skipComment
  if c.atLineEnd then some c.skipBreak else none

/-- Three equal marks at the start of a line, with a gap behind them. -/
def seesDocumentMark (c : Cursor) (mark : Char) : Bool :=
  c.column == 0 && c.rest.take 3 == [mark, mark, mark] && c.gapAt 3

def seesAnyDocumentMark (c : Cursor) : Bool :=
  c.seesDocumentMark '-' || c.seesDocumentMark '.'

end Cursor

/-- One line break between lines of text becomes a blank, further ones stay. -/
def foldBreaks (first others : List Char) : List Char :=
  if first = ['\n'] then if others.isEmpty then [' '] else others else first ++ others

/-- Blanks and line breaks between two pieces of text: the blanks before the first break, the first
break if there is one, and the breaks after it. -/
structure Gap where
  blanks : List Char
  first : Option (List Char)
  others : List Char

namespace Gap

def none : Gap :=
  ⟨[], Option.none, []⟩

def isBroken (g : Gap) : Bool :=
  g.first.isSome

def text (g : Gap) : List Char :=
  match g.first with
  | some first => foldBreaks first g.others
  | Option.none => g.blanks

/-- The whole gap before the next character; a tab left of the column `tabsFrom` is refused once a line
has ended. -/
def read (tabsFrom : Int) : Nat → Gap → Cursor → Option (Gap × Cursor)
  | 0, g, c => some (g, c)
  | steps + 1, g, c =>
    match c.peek with
    | some d =>
      if isBlank d then
        if g.isBroken then
          if d = '\t' ∧ (c.column : Int) < tabsFrom then Option.none
          else read tabsFrom steps g (c.skip 1)
        else read tabsFrom steps { g with blanks := g.blanks ++ [d] } (c.skip 1)
      else if isBreak d then
        let (piece, next) := c.takeBreak
        if g.isBroken then read tabsFrom steps { g with others := g.others ++ piece } next
        else read tabsFrom steps ⟨[], some piece, []⟩ next
      else some (g, c)
    | Option.none => some (g, c)

end Gap

end QueryCheck.Yaml

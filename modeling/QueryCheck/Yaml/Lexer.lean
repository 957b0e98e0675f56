import QueryCheck.Yaml.Scalars
import QueryCheck.Yaml.Tag

/-!
# From a YAML text to tokens

Indentation becomes block tokens. A mapping key is known as one only by the colon behind it: whatever
may begin a key is remembered until then, and the key token is put in front of it afterwards. Such a key
stays on one line and is at most 1024 octets long.
-/

namespace QueryCheck.Yaml

/-- What may turn out to be a key: the number of its first token and its place. A key is required when
it stands at the column of its block. -/
structure KeyStart where
  number : Nat
  required : Bool
  index : Nat
  line : Nat
  column : Nat

/-- Tokens are kept latest first. `keys` has one place for the block context and one for every open
flow collection, innermost first; `indent` is the column of the block, -1 outside of all blocks. -/
structure Lexer where
  cursor : Cursor
  tokens : List Token
  count : Nat
  flow : Nat
  indent : Int
  indents : List Int
  keys : List (Option KeyStart)
  keyAllowed : Bool

namespace Lexer

def maxKeyLength : Nat := 1024

def start (text : List Char) : Lexer where
  cursor := Cursor.atStart text
  tokens := []
  count := 0
  flow := 0
  indent := -1
  indents := []
  keys := [none]
  keyAllowed := true

def inFlow (s : Lexer) : Bool :=
  s.flow != 0

def column (s : Lexer) : Int :=
  s.cursor.column

def push (s : Lexer) (token : Token) : Lexer :=
  { s with tokens := token :: s.tokens, count := s.count + 1 }

/-- The token gets this number, and later tokens move up by one. -/
def insert (s : Lexer) (number : Nat) (token : Token) : Lexer :=
  let later := s.count - number
  { s with tokens := s.tokens.take later ++ token :: s.tokens.drop later, count := s.count + 1 }

def skip (s : Lexer) (count : Nat) : Lexer :=
  { s with cursor := s.cursor.skip count }

def allowKey (s : Lexer) (allowed : Bool) : Lexer :=
  { s with keyAllowed := allowed }

/-- Blanks, comments and line breaks before the next token. A tab counts as a blank where no block
token can follow it, and a byte order mark where a line begins. -/
def skipGap : Nat → Lexer → Lexer
  | 0, s => s
  | steps + 1, s =>
    let c := s.cursor
    let c := if c.column = 0 ∧ c.sees (Char.ofNat 0xFEFF) then c.skip 1 else c
    let tabs := s.inFlow || !s.keyAllowed
    let c := (c.skipWhile fun d => d == ' ' || (tabs && d == '\t')).skipComment
    if c.seesIn isBreak then
      skipGap steps { s with cursor := c.skipBreak, keyAllowed := s.keyAllowed || !s.inFlow }
    else { s with cursor := c }

/-! ## Keys -/

def isStale (s : Lexer) (key : KeyStart) : Bool :=
  decide (key.line < s.cursor.line) || decide (key.index + maxKeyLength < s.cursor.index)

/-- Starts that can no longer be keys are given up; a required one is then missing its colon. -/
def dropStaleKeys (s : Lexer) : Option Lexer :=
  if s.keys.any (fun key => key.any fun k => s.isStale k && k.required) then none
  else some { s with keys := s.keys.map fun key => key.filter fun k => !s.isStale k }

def setKey (s : Lexer) (key : Option KeyStart) : Lexer :=
  { s with keys := key :: s.keys.drop 1 }

def key? (s : Lexer) : Option KeyStart :=
  s.keys.head?.join

def dropKey (s : Lexer) : Option Lexer :=
  if s.key?.any KeyStart.required then none else some (s.setKey none)

def saveKey (s : Lexer) : Option Lexer :=
  if s.keyAllowed then
    let key : KeyStart :=
      ⟨s.count, !s.inFlow && s.indent == s.column, s.cursor.index, s.cursor.line, s.cursor.column⟩
    s.dropKey.map fun s => s.setKey (some key)
  else some s

/-! ## Blocks -/

def openBlock (s : Lexer) (column number : Nat) (token : Token) : Lexer :=
  if !s.inFlow && decide (s.indent < column) then
    { s with indents := s.indent :: s.indents, indent := column }.insert number token
  else s

def closeBlocks (column : Int) (s : Lexer) : Lexer :=
  if s.inFlow then s else close s.indents s
where
  close : List Int → Lexer → Lexer
    | [], s => s
    | outer :: more, s =>
      if column < s.indent then close more ({ s with indent := outer, indents := more }.push .blockEnd)
      else s

/-! ## Tokens -/

def endStream (s : Lexer) : Option Lexer :=
  ((s.closeBlocks (-1)).dropKey).map fun s => (s.allowKey false).push .streamEnd

def directive (s : Lexer) : Option Lexer := do
  let s ← (s.closeBlocks (-1)).dropKey
  let (token, c) ← readDirective s.cursor
  some (({ s with cursor := c }.allowKey false).push token)

def documentMark (s : Lexer) (token : Token) : Option Lexer :=
  ((s.closeBlocks (-1)).dropKey).map fun s => ((s.allowKey false).skip 3).push token

def openFlow (s : Lexer) (token : Token) : Option Lexer :=
  s.saveKey.map fun s =>
    (({ s with flow := s.flow + 1, keys := none :: s.keys }.allowKey true).skip 1).push token

def closeFlow (s : Lexer) (token : Token) : Option Lexer :=
  s.dropKey.map fun s =>
    let s := if s.inFlow then { s with flow := s.flow - 1, keys := s.keys.drop 1 } else s
    ((s.allowKey false).skip 1).push token

def flowEntry (s : Lexer) : Option Lexer :=
  s.dropKey.map fun s => ((s.allowKey true).skip 1).push .flowEntry

def blockEntry (s : Lexer) : Option Lexer :=
  if !s.inFlow && !s.keyAllowed then none
  else
    (s.openBlock s.cursor.column s.count .blockSequenceStart).dropKey.map fun s =>
      ((s.allowKey true).skip 1).push .blockEntry

def explicitKey (s : Lexer) : Option Lexer :=
  if !s.inFlow && !s.keyAllowed then none
  else
    (s.openBlock s.cursor.column s.count .blockMappingStart).dropKey.map fun s =>
      ((s.allowKey !s.inFlow).skip 1).push .key

/-- A colon: behind a possible key the key token is added in front of it, with the block it opens. -/
def value (s : Lexer) : Option Lexer :=
  match s.key? with
  | some key =>
    let s := (s.insert key.number .key).openBlock key.column key.number .blockMappingStart
    some ((((s.setKey none).allowKey false).skip 1).push .value)
  | none =>
    if !s.inFlow && !s.keyAllowed then none
    else
      let s := s.openBlock s.cursor.column s.count .blockMappingStart
      some (((s.allowKey !s.inFlow).skip 1).push .value)

def keyed (s : Lexer) (read : Cursor → Option (Token × Cursor)) : Option Lexer := do
  let s ← s.saveKey
  let (token, c) ← read s.cursor
  some (({ s with cursor := c }.allowKey false).push token)

def quoted (s : Lexer) (quote : Char) : Option Lexer :=
  s.keyed fun c =>
    (readQuoted quote c).map fun (text, c) => (.scalar (String.ofList text) false, c)

def block (s : Lexer) (folded : Bool) : Option Lexer := do
  let s ← s.dropKey
  let (text, c) ← readBlock folded s.indent s.cursor
  some (({ s with cursor := c }.allowKey true).push (.scalar (String.ofList text) false))

/-- Behind lines that were left the next token may begin a key. -/
def plain (s : Lexer) : Option Lexer := do
  let s ← s.saveKey
  let (text, newLine, c) ← readPlain s.inFlow s.indent s.cursor
  some (({ s with cursor := c }.allowKey newLine).push (.scalar (String.ofList text) true))

def isIndicator (c : Char) : Bool :=
  "-?:,[]\x7b\x7d#&*!|>\x27\"%@\x60".toList.contains c

def startsPlain (s : Lexer) (c : Char) : Bool :=
  !(isIndicator c || isGap c) || (c == '-' && !(s.cursor.peekAt 1).any isBlank) ||
    (!s.inFlow && (c == '?' || c == ':') && !s.cursor.gapAt 1)

def tokenAt (s : Lexer) (c : Char) : Option Lexer :=
  let gapBehind := s.cursor.gapAt 1
  if s.cursor.column = 0 ∧ c = '%' then s.directive
  else if s.cursor.seesDocumentMark '-' then s.documentMark .documentStart
  else if s.cursor.seesDocumentMark '.' then s.documentMark .documentEnd
  else if c = '[' then s.openFlow .flowSequenceStart
  else if c = '\x7b' then s.openFlow .flowMappingStart
  else if c = ']' then s.closeFlow .flowSequenceEnd
  else if c = '\x7d' then s.closeFlow .flowMappingEnd
  else if c = ',' then s.flowEntry
  else if c = '-' ∧ gapBehind then s.blockEntry
  else if c = '?' ∧ (s.inFlow ∨ gapBehind) then s.explicitKey
  else if c = ':' ∧ (s.inFlow ∨ gapBehind) then s.value
  else if c = '*' then s.keyed fun c => (readName c).map fun (name, c) => (.reference name, c)
  else if c = '&' then s.keyed fun c => (readName c).map fun (name, c) => (.anchor name, c)
  else if c = '!' then s.keyed fun c => (readTag s.inFlow c).map fun (tag, c) => (.tag tag, c)
  else if c = '|' ∧ !s.inFlow then s.block false
  else if c = '>' ∧ !s.inFlow then s.block true
  else if c = '\x27' ∨ c = '"' then s.quoted c
  else if s.startsPlain c then s.plain
  else none

def run : Nat → Lexer → Option Lexer
  | 0, _ => none
  | steps + 1, s =>
    match ((s.skipGap (steps + 1)).dropStaleKeys).map fun s => s.closeBlocks s.column with
    | none => none
    | some s =>
      match s.cursor.peek with
      | none => s.endStream
      | some c =>
        match s.tokenAt c with
        | some next => run steps next
        | none => none

end Lexer

def tokens? (text : List Char) : Option (List Token) :=
  if text.all isAllowed then
    ((Lexer.start text).run (text.length + 1)).map fun s => s.tokens.reverse
  else none

end QueryCheck.Yaml

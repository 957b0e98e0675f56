import QueryCheck.Text.Hex
import QueryCheck.Yaml.Cursor

/-!
# Scalar texts

Plain, quoted and block scalars, each from its first character on. All of them end before the text
does, or the text is refused.
-/

namespace QueryCheck.Yaml

/-! ## Plain scalars -/

/-- The characters up to a gap or an indicator; none when a colon stands before a flow indicator. -/
def plainRun (flow : Bool) : List Char → Option (List Char)
  | [] => some []
  | c :: rest =>
    if isGap c then some []
    else if flow && c == ':' && rest.head?.any (",?[]\x7b\x7d".toList.contains ·) then none
    else if c == ':' && rest.head?.all isGap then some []
    else if flow && ",[]\x7b\x7d".toList.contains c then some []
    else (plainRun flow rest).map (c :: ·)

/-- The text read so far is in `text`, and `gap` lies between it and the cursor. The result tells whether
lines were left behind the text. -/
def plainFrom (flow : Bool) (indent : Int) :
    Nat → List Char → Gap → Cursor → Option (List Char × Bool × Cursor)
  | 0, text, gap, c => some (text, gap.isBroken, c)
  | steps + 1, text, gap, c =>
    if c.seesAnyDocumentMark || c.sees '#' then some (text, gap.isBroken, c)
    else
      match plainRun flow c.rest with
      | none => none
      | some run =>
        let (text, gap) := if run.isEmpty then (text, gap) else (text ++ gap.text ++ run, Gap.none)
        let c := c.skip run.length
        if !c.seesIn isGap then some (text, gap.isBroken, c)
        else
          match gap.read indent (c.rest.length + 1) c with
          | none => none
          | some (gap, c) =>
            if !flow && decide ((c.column : Int) < indent) then some (text, gap.isBroken, c)
            else plainFrom flow indent steps text gap c

/-- In a block, the lines of a plain scalar stand right of the block's column. -/
def readPlain (flow : Bool) (blockColumn : Int) (c : Cursor) : Option (List Char × Bool × Cursor) :=
  plainFrom flow (blockColumn + 1) (c.rest.length + 1) [] Gap.none c

/-! ## Quoted scalars -/

def escapedChar? : Char → Option Char
  | '0' => some (Char.ofNat 0)
  | 'a' => some (Char.ofNat 7)
  | 'b' => some (Char.ofNat 8)
  | 't' => some '\t'
  | '\t' => some '\t'
  | 'n' => some '\n'
  | 'v' => some (Char.ofNat 0xB)
  | 'f' => some (Char.ofNat 0xC)
  | 'r' => some '\r'
  | 'e' => some (Char.ofNat 0x1B)
  | ' ' => some ' '
  | '"' => some '"'
  | '/' => some '/'
  | '\\' => some '\\'
  | 'N' => some (Char.ofNat 0x85)
  | '_' => some (Char.ofNat 0xA0)
  | 'L' => some (Char.ofNat 0x2028)
  | 'P' => some (Char.ofNat 0x2029)
  | _ => none

def codeLength? : Char → Option Nat
  | 'x' => some 2
  | 'u' => some 4
  | 'U' => some 8
  | _ => none

def charOfCode? (code : Nat) : Option Char :=
  if code.isValidChar then some (Char.ofNat code) else none

def escape? : List Char → Option (Char × Nat)
  | [] => none
  | c :: rest =>
    match codeLength? c with
    | some length =>
      if rest.length < length then none
      else ((Text.ofRadix? 16 (rest.take length)).bind charOfCode?).map fun d => (d, length + 1)
    | none => (escapedChar? c).map fun d => (d, 1)

def quotedRun (quote : Char) : Nat → List Char → Cursor → Option (List Char × Cursor)
  | 0, text, c => some (text, c)
  | steps + 1, text, c =>
    match c.rest with
    | [] => some (text, c)
    | d :: rest =>
      if isGap d then some (text, c)
      else if d = quote then
        if quote = '\x27' ∧ rest.head? = some quote then
          quotedRun quote steps (text ++ [quote]) (c.skip 2)
        else some (text, c)
      else if quote = '"' ∧ d = '\\' then
        if rest.head?.any isBreak then some (text, c)
        else
          match escape? rest with
          | some (e, length) => quotedRun quote steps (text ++ [e]) (c.skip (length + 1))
          | none => none
      else quotedRun quote steps (text ++ [d]) (c.skip 1)

/-- Behind the opening quote. A document mark may not stand inside. -/
def quotedFrom (quote : Char) : Nat → List Char → Cursor → Option (List Char × Cursor)
  | 0, _, _ => none
  | steps + 1, text, c =>
    if c.seesAnyDocumentMark || c.rest.isEmpty then none
    else
      match quotedRun quote (c.rest.length + 1) [] c with
      | none => none
      | some (run, c) =>
        let text := text ++ run
        let escaped := c.sees '\\'
        let c := if escaped then (c.skip 1).skipBreak else c
        if c.sees quote then some (text, c.skip 1)
        else
          let gap : Gap := if escaped then ⟨[], some [], []⟩ else Gap.none
          match gap.read 0 (c.rest.length + 1) c with
          | none => none
          | some (gap, c) => quotedFrom quote steps (text ++ gap.text) c

def readQuoted (quote : Char) (c : Cursor) : Option (List Char × Cursor) :=
  quotedFrom quote (c.rest.length + 1) [] (c.skip 1)

/-! ## Block scalars -/

inductive Chomping where
  | strip
  | clip
  | keep

structure BlockHeader where
  chomping : Chomping
  /-- The written distance to the column of the surrounding block. -/
  increment : Option Nat

def chomping? : Option Char → Option Chomping
  | some '+' => some .keep
  | some '-' => some .strip
  | _ => none

/-- A digit that is not zero; the outer `none` refuses zero. -/
def increment? (c : Cursor) : Option (Option Nat) :=
  match c.peek with
  | some d =>
    if d = '0' then none
    else if d.isDigit then some (some (d.toNat - '0'.toNat))
    else some none
  | none => some none

def readHeader (c : Cursor) : Option (BlockHeader × Cursor) :=
  match chomping? c.peek with
  | some chomping =>
    let c := c.skip 1
    match increment? c with
    | none => none
    | some increment => some (⟨chomping, increment⟩, if increment.isSome then c.skip 1 else c)
  | none =>
    match increment? c with
    | none => none
    | some none => some (⟨.clip, none⟩, c)
    | some increment =>
      let c := c.skip 1
      match chomping? c.peek with
      | some chomping => some (⟨chomping, increment⟩, c.skip 1)
      | none => some (⟨.clip, increment⟩, c)

/-- Empty lines and the indentation of the next line, up to the column `indent` if it is known; a tab
may not take part in the indentation. The widest column that was reached comes with the breaks. -/
def blockBreaks (indent : Option Nat) :
    Nat → List Char → Nat → Cursor → Option (List Char × Nat × Cursor)
  | 0, breaks, widest, c => some (breaks, widest, c)
  | steps + 1, breaks, widest, c =>
    let spaces := (c.rest.takeWhile (· == ' ')).length
    let taken :=
      match indent with
      | some column => min spaces (column - c.column)
      | none => spaces
    let c := c.skip taken
    let widest := max widest c.column
    if (indent.all fun column => c.column < column) && c.sees '\t' then none
    else if c.seesIn isBreak then
      let (piece, next) := c.takeBreak
      blockBreaks indent steps (breaks ++ piece) widest next
    else some (breaks, widest, c)

/-- The text of a block so far, with the line break behind it and the empty lines behind that. -/
structure BlockText where
  text : List Char
  ending : List Char
  empties : List Char
  /-- The last line began with a blank. -/
  blank : Bool

/-- The line at the cursor is added. In a folded block a break between two lines that begin with text
is folded. -/
def BlockText.addLine (b : BlockText) (folded : Bool) (c : Cursor) : BlockText × Cursor :=
  let blank := c.seesIn isBlank
  let joint :=
    if folded && b.ending == ['\n'] && !b.blank && !blank then
      if b.empties.isEmpty then [' '] else b.empties
    else b.ending ++ b.empties
  let (line, c) := c.takeWhile fun d => !isBreak d
  let (ending, c) := c.takeBreak
  (⟨b.text ++ joint ++ line, ending, [], blank⟩, c)

def blockLines (folded : Bool) (indent : Nat) : Nat → BlockText → Cursor → Option (BlockText × Cursor)
  | 0, b, c => some (b, c)
  | steps + 1, b, c =>
    if c.column = indent ∧ c.rest ≠ [] then
      let (b, c) := b.addLine folded c
      match blockBreaks (some indent) (c.rest.length + 1) [] 0 c with
      | none => none
      | some (empties, _, c) => blockLines folded indent steps { b with empties := empties } c
    else some (b, c)

def BlockText.chomped (b : BlockText) : Chomping → List Char
  | .strip => b.text
  | .clip => b.text ++ b.ending
  | .keep => b.text ++ b.ending ++ b.empties

/-- The column of the lines: as written, or that of the first line, but right of the surrounding
block. -/
def readBlock (folded : Bool) (blockColumn : Int) (c : Cursor) : Option (List Char × Cursor) := do
  let (header, c) ← readHeader (c.skip 1)
  let c ← c.skipRestOfLine
  let written := header.increment.map fun n =>
    if 0 ≤ blockColumn then blockColumn.toNat + n else n
  let (empties, widest, c) ← blockBreaks written (c.rest.length + 1) [] 0 c
  let indent := written.getD (max widest (max (blockColumn + 1).toNat 1))
  let (b, c) ← blockLines folded indent (c.rest.length + 1) ⟨[], [], empties, false⟩ c
  some (b.chomped header.chomping, c)

end QueryCheck.Yaml

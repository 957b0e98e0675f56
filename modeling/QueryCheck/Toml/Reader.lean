import QueryCheck.Toml.Number
import QueryCheck.Toml.Quoted
import QueryCheck.Toml.Tree

/-!
# Reading TOML

A document is a sequence of lines: headers of tables, and keys with their values. Arrays may run over
several lines, inline tables may not.
-/

namespace QueryCheck.Toml

open Text (Reader afterWord)

def inlineTable (pairs : List (Key × Value)) : Option Value :=
  (pairs.foldlM (fun tree pair => Tree.add pair.1.name pair.2 pair.1.parents tree) []).map fun tree =>
    .table (Tree.toTable tree)

def number : Reader Value := fun text =>
  match moment text with
  | some (text, rest) => some (.moment text, rest)
  | none =>
    match special text with
    | some (x, rest) => some (.float x, rest)
    | none =>
      match decimal text with
      | some (x, rest) => some (.float x, rest)
      | none => (integer text).map fun (n, rest) => (.integer n, rest)

mutual

/-- One value. Every step takes at least one character or goes to a part of what the last one left. -/
def valueWithin : Nat → Reader Value
  | 0, _ => none
  | steps + 1, text =>
    match text with
    | '"' :: _ => (quoted text).map fun (text, rest) => (.string text, rest)
    | '\x27' :: _ => (quoted text).map fun (text, rest) => (.string text, rest)
    | 't' :: rest => (afterWord "rue".toList rest).map fun rest => (.bool true, rest)
    | 'f' :: rest => (afterWord "alse".toList rest).map fun rest => (.bool false, rest)
    | '[' :: rest => (itemsWithin steps rest).map fun (items, rest) => (.array items, rest)
    | '\x7b' :: rest =>
      match skipBlanks rest with
      | '\x7d' :: rest => some (.table [], rest)
      | rest => do
        let (pairs, rest) ← pairsWithin steps rest
        let table ← inlineTable pairs
        some (table, rest)
    | _ => number text

def itemsWithin : Nat → Reader (List Value)
  | 0, _ => none
  | steps + 1, text =>
    match skipLines false text with
    | ']' :: rest => some ([], rest)
    | text => do
      let (item, rest) ← valueWithin steps text
      match skipLines false rest with
      | ']' :: rest => some ([item], rest)
      | ',' :: rest =>
        let (items, rest) ← itemsWithin steps rest
        some (item :: items, rest)
      | _ => none

def pairsWithin : Nat → Reader (List (Key × Value))
  | 0, _ => none
  | steps + 1, text => do
    let (name, rest) ← key text
    match rest with
    | '=' :: rest =>
      let (value, rest) ← valueWithin steps (skipBlanks rest)
      match skipBlanks rest with
      | '\x7d' :: rest => some ([(name, value)], rest)
      | ',' :: rest =>
        let (pairs, rest) ← pairsWithin steps rest
        some ((name, value) :: pairs, rest)
      | _ => none
    | _ => none

end

def value : Reader Value := fun text =>
  valueWithin (2 * text.length + 1) text

inductive Line where
  | table (key : Key)
  | element (key : Key)
  | entry (key : Key) (value : Value)

/-- A header or a key with its value, without the end of its line. -/
def statement : Reader Line
  | '[' :: '[' :: rest => do
    let (name, rest) ← key rest
    let rest ← afterWord "]]".toList rest
    some (.element name, rest)
  | '[' :: rest => do
    let (name, rest) ← key rest
    let rest ← afterWord "]".toList rest
    some (.table name, rest)
  | text => do
    let (name, rest) ← key text
    let rest ← afterWord "=".toList rest
    let (content, rest) ← value (skipBlanks rest)
    some (.entry name content, rest)

def linesWithin : Nat → List Char → Option (List Line)
  | 0, _ => none
  | steps + 1, text =>
    match skipLines false text with
    | [] => some []
    | text => do
      let (line, rest) ← statement text
      let rest ← nextLine rest
      let lines ← linesWithin steps rest
      some (line :: lines)

structure Draft where
  tree : Tree
  current : List String

namespace Draft

def empty : Draft :=
  ⟨[], []⟩

def append (draft : Draft) : Line → Option Draft
  | .table key =>
    (Tree.under (Tree.openTable key.name) key.parents draft.tree).map fun tree => ⟨tree, key.names⟩
  | .element key =>
    (Tree.under (Tree.openElement key.name) key.parents draft.tree).map fun tree => ⟨tree, key.names⟩
  | .entry key value =>
    (Tree.under (Tree.add key.name value key.parents) draft.current draft.tree).map fun tree =>
      ⟨tree, draft.current⟩

end Draft

/-- A byte order mark may stand in front. -/
def dropMark : List Char → List Char
  | '\uFEFF' :: rest => rest
  | text => text

def read? (text : String) : Option Table := do
  let chars := dropMark text.toList
  let lines ← linesWithin (chars.length + 1) chars
  let draft ← lines.foldlM Draft.append Draft.empty
  some (Tree.toTable draft.tree)

end QueryCheck.Toml

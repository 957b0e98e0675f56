import QueryCheck.Yaml.Lexer
import QueryCheck.Yaml.Node
import QueryCheck.Yaml.Value

/-!
# From nodes to values

Every alias is replaced by the node that its anchor marks. Collections may be nested to a limit, and
aliases may be followed a limited number of times, so an alias inside its own anchor ends in an error.
A key may occur once in a mapping.
-/

namespace QueryCheck.Yaml

namespace Node

/-! ## Anchors -/

/-- Anchors are numbered by how many names are known before; a name that comes again takes the next
number, which the next new name takes too. -/
structure Anchors where
  numbers : List (String × Nat)
  /-- In the order of the document; of two nodes with one number the later one counts. -/
  marked : List (Nat × Node Nat)

namespace Anchors

def number? (anchors : Anchors) (name : String) : Option Nat :=
  (anchors.numbers.find? fun entry => entry.1 == name).map Prod.snd

def put (name : String) (number : Nat) : List (String × Nat) → List (String × Nat)
  | [] => [(name, number)]
  | (key, old) :: rest =>
    if key = name then (key, number) :: rest else (key, old) :: put name number rest

def reserve (anchors : Anchors) (anchor : Option String) : Anchors × Option Nat :=
  match anchor with
  | none => (anchors, none)
  | some name =>
    let number := anchors.numbers.length
    ({ anchors with numbers := put name number anchors.numbers }, some number)

end Anchors

/-- A node whose aliases are numbers, and what its anchors mark, the node itself first. -/
structure Linked (α : Type) where
  result : α
  numbers : List (String × Nat)
  marked : List (Nat × Node Nat)

def Linked.mark (number : Option Nat) (linked : Linked (Node Nat)) : Linked (Node Nat) :=
  match number with
  | some n => { linked with marked := (n, linked.result) :: linked.marked }
  | none => linked

mutual

/-- Names are looked up among the anchors before the alias. -/
def link (numbers : List (String × Nat)) : Node String → Option (Linked (Node Nat))
  | reference name =>
    (Anchors.number? ⟨numbers, []⟩ name).map fun number => ⟨reference number, numbers, []⟩
  | scalar p text plain =>
    let (anchors, number) := Anchors.reserve ⟨numbers, []⟩ p.anchor
    some (Linked.mark number ⟨scalar p text plain, anchors.numbers, []⟩)
  | sequence p items =>
    let (anchors, number) := Anchors.reserve ⟨numbers, []⟩ p.anchor
    (linkItems anchors.numbers items).map fun found =>
      Linked.mark number ⟨sequence p found.result, found.numbers, found.marked⟩
  | mapping p entries =>
    let (anchors, number) := Anchors.reserve ⟨numbers, []⟩ p.anchor
    (linkEntries anchors.numbers entries).map fun found =>
      Linked.mark number ⟨mapping p found.result, found.numbers, found.marked⟩

def linkItems (numbers : List (String × Nat)) : List (Node String) → Option (Linked (List (Node Nat)))
  | [] => some ⟨[], numbers, []⟩
  | item :: rest =>
    match link numbers item with
    | none => none
    | some first =>
      (linkItems first.numbers rest).map fun others =>
        ⟨first.result :: others.result, others.numbers, first.marked ++ others.marked⟩

def linkEntries (numbers : List (String × Nat)) :
    List (Node String × Node String) → Option (Linked (List (Node Nat × Node Nat)))
  | [] => some ⟨[], numbers, []⟩
  | (key, value) :: rest =>
    match link numbers key with
    | none => none
    | some k =>
      match link k.numbers value with
      | none => none
      | some v =>
        (linkEntries v.numbers rest).map fun others =>
          ⟨(k.result, v.result) :: others.result, others.numbers,
            k.marked ++ v.marked ++ others.marked⟩

end

mutual

/-- Scalars and aliases count once, collections twice, for their two ends. -/
def size {ρ : Type} : Node ρ → Nat
  | reference _ => 1
  | scalar .. => 1
  | sequence _ items => 2 + sizeItems items
  | mapping _ entries => 2 + sizeEntries entries

def sizeItems {ρ : Type} : List (Node ρ) → Nat
  | [] => 0
  | item :: rest => item.size + sizeItems rest

def sizeEntries {ρ : Type} : List (Node ρ × Node ρ) → Nat
  | [] => 0
  | (key, value) :: rest => key.size + value.size + sizeEntries rest

end

end Node

/-! ## Values -/

def maxDepth : Nat := 128

structure Aliases where
  marked : List (Nat × Node Nat)
  limit : Nat

/-- A value, and how often aliases have been followed so far. -/
abbrev Resolving (α : Type) := StateT Nat Option α

namespace Aliases

def target? (aliases : Aliases) (number : Nat) : Option (Node Nat) :=
  ((aliases.marked.filter fun entry => entry.1 == number).getLast?).map Prod.snd

def follow (aliases : Aliases) (number : Nat) : Resolving (Node Nat) := fun followed =>
  if aliases.limit < followed + 1 then none
  else (aliases.target? number).map fun node => (node, followed + 1)

end Aliases

def reject {α : Type} : Resolving α := fun _ => none

def accept {α : Type} (value : Option α) : Resolving α := fun followed =>
  value.map fun v => (v, followed)

/-- A tag without the mark in front of it, unless nothing follows the mark. -/
def unmarked (tag : Octets) : Octets :=
  if isMarked tag && decide (1 < tag.length) then tag.drop 1 else tag

/-- The name of a tag that stays with its value: the tag begins with an exclamation mark, and what follows
is text. A second mark belongs to the name only if nothing else does. -/
def localTag? (tag : Option Octets) : Option String :=
  match tag with
  | some tag => if isMarked tag then String.fromUTF8? ⟨(unmarked (unmarked tag)).toArray⟩ else none
  | none => none

def insertEntry (key : Value) (seen : List Value) : Resolving (List Value) :=
  if seen.any (Value.same key) then reject else accept (some (seen ++ [key]))

def resolveItems (resolve : Node Nat → Resolving Value) : List (Node Nat) → Resolving (List Value)
  | [] => accept (some [])
  | item :: rest => do
    let first ← resolve item
    let others ← resolveItems resolve rest
    accept (some (first :: others))

/-- A key that was there before is found before its value is looked at. -/
def resolveEntries (resolve : Node Nat → Resolving Value) (seen : List Value) :
    List (Node Nat × Node Nat) → Resolving (List (Value × Value))
  | [] => accept (some [])
  | (key, value) :: rest => do
    let k ← resolve key
    let seen ← insertEntry k seen
    let v ← resolve value
    let others ← resolveEntries resolve seen rest
    accept (some ((k, v) :: others))

def withTag (tag : Option String) (value : Value) : Value :=
  match tag with
  | some tag => .tagged tag value
  | none => value

def resolve (aliases : Aliases) (depth : Nat) (node : Node Nat) : Resolving Value := do
  let node ← match node with
    | .reference number => aliases.follow number
    | node => accept (some node)
  let tag := localTag? node.properties.tag
  match node, depth with
  | .reference _, _ => reject
  | .scalar p text plain, _ =>
    let converting := if tag.isSome then none else p.tag
    let value ← accept (Value.ofScalar converting text plain)
    accept (some (withTag tag value))
  | .sequence _ items, depth + 1 =>
    let values ← resolveItems (resolve aliases depth) items
    accept (some (withTag tag (.sequence values)))
  | .mapping _ entries, depth + 1 =>
    let entries ← resolveEntries (resolve aliases depth) [] entries
    accept (some (withTag tag (.mapping entries)))
  | _, 0 => reject

def read? (text : List Char) : Option Value := do
  let tokens ← tokens? text
  let root ← Node.ofTokens? tokens
  let linked ← Node.link [] root
  let aliases : Aliases := ⟨linked.marked, 100 * root.size⟩
  let (value, _) ← resolve aliases maxDepth linked.result 0
  some value

end QueryCheck.Yaml

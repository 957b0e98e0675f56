import QueryCheck.Toml.Value

/-!
# Tables under construction

While a document is read, every table knows how it came about: by its own header, on the way to another
header, or by a dotted key. That decides what may still be added to it. No name is ever written twice.
-/

namespace QueryCheck.Toml

inductive Origin where
  | header
  /-- Named only on the way to a table below it. -/
  | implied
  | dotted
deriving DecidableEq

inductive Node where
  | value (value : Value)
  | table (origin : Origin) (entries : List (String × Node))
  /-- Tables of one name, of which the last is still open. -/
  | tables (closed : List (List (String × Node))) (last : List (String × Node))
deriving Inhabited

abbrev Tree := Fields Node

namespace Tree

def addHere (name : String) (value : Value) (tree : Tree) : Option Tree :=
  if (Fields.get? name tree).isSome then none else some (tree ++ [(name, .value value)])

/-- A value under a dotted key. Tables on the way are made; a table with a header of its own takes
nothing more, and the innermost one has to come from dotted keys. -/
def add (name : String) (value : Value) : List String → Tree → Option Tree
  | [], tree => addHere name value tree
  | parent :: rest, tree =>
    match Fields.get? parent tree with
    | none => (add name value rest []).map fun inner => tree ++ [(parent, .table .dotted inner)]
    | some (.value _) => none
    | some (.table origin inner) =>
      if origin = .header ∨ (rest = [] ∧ origin ≠ .dotted) then none
      else (add name value rest inner).map fun inner => Fields.insert parent (.table origin inner) tree
    | some (.tables closed last) =>
      if rest = [] then none
      else (add name value rest last).map fun last => Fields.insert parent (.tables closed last) tree

/-- A change of the table that a header names. Tables on the way are made. -/
def under (change : Tree → Option Tree) : List String → Tree → Option Tree
  | [], tree => change tree
  | parent :: rest, tree =>
    match Fields.get? parent tree with
    | none => (under change rest []).map fun inner => tree ++ [(parent, .table .implied inner)]
    | some (.value _) => none
    | some (.table origin inner) =>
      (under change rest inner).map fun inner => Fields.insert parent (.table origin inner) tree
    | some (.tables closed last) =>
      (under change rest last).map fun last => Fields.insert parent (.tables closed last) tree

def openTable (name : String) (tree : Tree) : Option Tree :=
  match Fields.get? name tree with
  | none => some (tree ++ [(name, .table .header [])])
  | some (.table .implied inner) => some (Fields.insert name (.table .header inner) tree)
  | some _ => none

def openElement (name : String) (tree : Tree) : Option Tree :=
  match Fields.get? name tree with
  | none => some (tree ++ [(name, .tables [] [])])
  | some (.tables closed last) => some (Fields.insert name (.tables (closed ++ [last]) []) tree)
  | some _ => none

end Tree

mutual

def Node.toValue : Node → Value
  | .value value => value
  | .table _ entries => .table (Tree.toTable entries)
  | .tables closed last => .array (Tree.toTables closed ++ [.table (Tree.toTable last)])

def Tree.toTable : List (String × Node) → Table
  | [] => []
  | (name, node) :: rest => (name, node.toValue) :: Tree.toTable rest

def Tree.toTables : List (List (String × Node)) → List Value
  | [] => []
  | tree :: rest => .table (Tree.toTable tree) :: Tree.toTables rest

end

end QueryCheck.Toml

/-!
# Condition expressions

The tree of a condition, and the columns that it refers to. Columns have no type before a row is there.
-/

namespace QueryCheck.Condition

inductive Literal where
  | null
  | bool (value : Bool)
  | integer (value : Int64)
  | float (value : Float)
  | string (text : String)
deriving DecidableEq

inductive Arithmetic where
  | add
  | sub
  | mul
  | div
  | mod
deriving DecidableEq

def Arithmetic.symbol : Arithmetic → String
  | add => "+"
  | sub => "-"
  | mul => "*"
  | div => "/"
  | mod => "%"

inductive Comparison where
  | equal
  | notEqual
  | less
  | lessEqual
  | greater
  | greaterEqual
  | isIn
  | notIn
  | identical
  | notIdentical
deriving DecidableEq

def Comparison.symbol : Comparison → String
  | equal => "=="
  | notEqual => "!="
  | less => "<"
  | lessEqual => "<="
  | greater => ">"
  | greaterEqual => ">="
  | isIn => "in"
  | notIn => "not in"
  | identical => "is"
  | notIdentical => "is not"

inductive Builtin where
  | length
  | absolute
  | lower
  | upper
  | coalesce
deriving DecidableEq

namespace Builtin

def name : Builtin → String
  | length => "len"
  | absolute => "abs"
  | lower => "lower"
  | upper => "upper"
  | coalesce => "coalesce"

def all : List Builtin :=
  [length, absolute, lower, upper, coalesce]

def ofName? (name : String) : Option Builtin :=
  all.find? fun builtin => builtin.name == name

def admits : Builtin → Nat → Bool
  | coalesce, count => decide (1 ≤ count)
  | _, count => count == 1

def arityText : Builtin → String
  | coalesce => "at least 1"
  | _ => "1"

end Builtin

/-- A comparison `first op₁ e₁ op₂ e₂ …` holds when every adjacent pair does. -/
inductive Expr where
  | literal (value : Literal)
  | field (name : String)
  | list (items : List Expr)
  | neg (operand : Expr)
  | not (operand : Expr)
  | and (left right : Expr)
  | or (left right : Expr)
  | arithmetic (op : Arithmetic) (left right : Expr)
  | compare (first : Expr) (links : List (Comparison × Expr))
  | call (builtin : Builtin) (arguments : List Expr)
deriving Inhabited

namespace Expr

mutual

def mentions : Expr → List String
  | literal _ => []
  | field name => [name]
  | list items => mentionsAll items
  | neg operand => operand.mentions
  | not operand => operand.mentions
  | and left right => left.mentions ++ right.mentions
  | or left right => left.mentions ++ right.mentions
  | arithmetic _ left right => left.mentions ++ right.mentions
  | compare first links => first.mentions ++ mentionsLinks links
  | call _ arguments => mentionsAll arguments

def mentionsAll : List Expr → List String
  | [] => []
  | item :: rest => item.mentions ++ mentionsAll rest

def mentionsLinks : List (Comparison × Expr) → List String
  | [] => []
  | (_, operand) :: rest => operand.mentions ++ mentionsLinks rest

end

/-- Every name once, where it was first used. -/
def firstUses (names : List String) : List String :=
  names.foldl (fun seen name => if seen.contains name then seen else seen ++ [name]) []

def fields (e : Expr) : List String :=
  firstUses e.mentions

mutual

/-- The levels of the tree: a leaf has one, and every node stands one above its deepest child. -/
def levels : Expr → Nat
  | literal _ => 1
  | field _ => 1
  | list items => levelsAll items + 1
  | neg operand => operand.levels + 1
  | not operand => operand.levels + 1
  | and left right => max left.levels right.levels + 1
  | or left right => max left.levels right.levels + 1
  | arithmetic _ left right => max left.levels right.levels + 1
  | compare first links => max first.levels (levelsLinks links) + 1
  | call _ arguments => levelsAll arguments + 1

def levelsAll : List Expr → Nat
  | [] => 0
  | item :: rest => max item.levels (levelsAll rest)

def levelsLinks : List (Comparison × Expr) → Nat
  | [] => 0
  | (_, operand) :: rest => max operand.levels (levelsLinks rest)

end

end Expr

end QueryCheck.Condition

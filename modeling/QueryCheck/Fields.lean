/-!
# Named fields in order

Field lists keep the order in which names first appeared. Writing a name that is present changes its
value and moves nothing.
-/

namespace QueryCheck

abbrev Fields (α : Type) := List (String × α)

namespace Fields

def get? {α : Type} (name : String) : Fields α → Option α
  | [] => none
  | (key, value) :: rest => if key = name then some value else get? name rest

def insert {α : Type} (name : String) (value : α) : Fields α → Fields α
  | [] => [(name, value)]
  | (key, old) :: rest =>
    if key = name then (key, value) :: rest else (key, old) :: insert name value rest

def ofPairs {α : Type} (pairs : List (String × α)) : Fields α :=
  pairs.foldl (fun fields pair => insert pair.1 pair.2 fields) []

def names {α : Type} (fields : Fields α) : List String :=
  fields.map Prod.fst

end Fields

end QueryCheck

import QueryCheck.Fields

/-!
# JSON values

Numbers are whole numbers of the signed or unsigned 64-bit range, or doubles.
-/

namespace QueryCheck

inductive Json where
  | null
  | bool (value : Bool)
  | integer (value : Int)
  | float (value : Float)
  | string (value : String)
  | array (items : List Json)
  | object (fields : List (String × Json))
deriving Inhabited

namespace Json

def field? (name : String) : Json → Option Json
  | object fields => Fields.get? name fields
  | _ => none

def array? : Json → Option (List Json)
  | array items => some items
  | _ => none

def string? : Json → Option String
  | string text => some text
  | _ => none

def texts (items : List String) : Json :=
  array (items.map string)

def ofOption {α : Type} (encode : α → Json) : Option α → Json
  | some value => encode value
  | none => null

end Json

end QueryCheck

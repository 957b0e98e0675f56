import QueryCheck.Fields

/-!
# TOML values
-/

namespace QueryCheck.Toml

inductive Value where
  | string (text : String)
  | integer (value : Int64)
  | float (value : Float)
  | bool (value : Bool)
  /-- A date, a time of day or both, as written. -/
  | moment (text : String)
  | array (items : List Value)
  | table (fields : List (String × Value))
deriving Inhabited

abbrev Table := Fields Value

def Value.string? : Value → Option String
  | string text => some text
  | _ => none

def Value.natUpTo? (limit : Nat) : Value → Option Nat
  | integer n => if 0 ≤ n.toInt ∧ n.toInt ≤ limit then some n.toInt.toNat else none
  | _ => none

end QueryCheck.Toml

import QueryCheck.Json.Reader
import QueryCheck.Value.Json

/-!
# Row fixtures

A fixture file is a JSON array with one object per row. It stands in for the warehouse when a
specification is tried without one.
-/

namespace QueryCheck.Fixture

inductive Fault where
  | malformed
  | notArray
  | rowNotObject (index : Nat)
deriving DecidableEq

/-- The reader's complaint is all that is said of a text that is no JSON. -/
def Fault.message (complaint : String) : Fault → String
  | malformed => complaint
  | notArray => "expected a JSON array of row objects"
  | rowNotObject index => "row " ++ toString index ++ " is not an object"

/-- How many arrays and objects may stand inside one another. -/
def maxDepth : Nat := 127

def rowsFrom (index : Nat) : List Json → Except Fault (List Row)
  | [] => .ok []
  | .object fields :: rest => do
    let rows ← rowsFrom (index + 1) rest
    .ok (Value.ofJsonFields fields :: rows)
  | _ :: _ => .error (.rowNotObject index)

def rowsOfJson : Json → Except Fault (List Row)
  | .array items => rowsFrom 0 items
  | _ => .error .notArray

def readRows (text : String) : Except Fault (List Row) :=
  match Json.read? maxDepth text.toList with
  | some json => rowsOfJson json
  | none => .error .malformed

end QueryCheck.Fixture

import QueryCheck.Fields
import QueryCheck.Number.Binary64.Layout
import QueryCheck.Text.Printable

/-!
# Documents

The tree that a specification file holds. Temporal values are text here: the type of a parameter says
how its text is read. Mapping entries are in document order and may repeat a key, the first entry being
the one that a look-up finds.
-/

namespace QueryCheck

inductive Document where
  | null
  | bool (value : Bool)
  | integer (value : Int64)
  | float (value : Float)
  | text (value : String)
  | sequence (items : List Document)
  | mapping (entries : List (String × Document))
deriving Inhabited

inductive Scalar where
  | text (value : String)
  | integer (value : Int64)
  | float (value : Float)
  | bool (value : Bool)
deriving DecidableEq, Inhabited

namespace Document

def kindName : Document → String
  | null => "null"
  | bool _ => "bool"
  | integer _ => "int"
  | float _ => "float"
  | text _ => "text"
  | sequence _ => "sequence"
  | mapping _ => "mapping"

def entries? : Document → Option (List (String × Document))
  | mapping entries => some entries
  | _ => none

def items? : Document → Option (List Document)
  | sequence items => some items
  | _ => none

def text? : Document → Option String
  | text value => some value
  | _ => none

def scalar? : Document → Option Scalar
  | text value => some (.text value)
  | integer value => some (.integer value)
  | float value => some (.float value)
  | bool value => some (.bool value)
  | _ => none

def get? (key : String) (doc : Document) : Option Document :=
  doc.entries?.bind (Fields.get? key)

def hasKey (key : String) (doc : Document) : Bool :=
  (doc.get? key).isSome

end Document

namespace Scalar

/-- Text stands in quotes, and a number has no exponent. -/
def chars : Scalar → List Char
  | text value => Text.quoted value.toList
  | integer value => intText value.toInt
  | float value => Binary64.Layout.plain.text value
  | bool true => "true".toList
  | bool false => "false".toList

end Scalar

end QueryCheck

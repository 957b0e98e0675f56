import QueryCheck.SpecError

/-!
# Faults in the shape of a document
-/

namespace QueryCheck

inductive Shape where
  | mapping
  | sequence
  | text
  | scalar
deriving DecidableEq

def Shape.description : Shape → String
  | mapping => "mapping"
  | sequence => "sequence"
  | text => "text"
  | scalar => "scalar (text,int,float,bool,timestamp,date)"

inductive SchemaFault where
  /-- The top of the document lacks the key. -/
  | missing (key : String)
  /-- A part of the document lacks the key. -/
  | missingIn (part key : String)
  | mistyped (part : String) (shape : Shape)
  /-- There are neither cases nor invariants. -/
  | nothingToCheck
  | unknownKey (key : String)
  | notSequence
deriving DecidableEq

def SchemaFault.message : SchemaFault → String
  | missing key => key ++ " is required"
  | missingIn part key => part ++ " required to '" ++ key ++ "'"
  | mistyped part shape => part ++ " must be " ++ shape.description
  | nothingToCheck => "top level object required to either or both: cases,invariants"
  | unknownKey key => "'" ++ key ++ "' is unknown property"
  | notSequence => "expected sequence"

abbrev SchemaDefect := Located SchemaFault

def SchemaDefect.toError (defect : SchemaDefect) : SpecError :=
  Located.toError .schema SchemaFault.message defect

end QueryCheck

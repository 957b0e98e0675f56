import QueryCheck.Condition.ParseError
import QueryCheck.SpecError

/-!
# Faults in the values of a specification
-/

namespace QueryCheck

inductive ValueFault where
  | noFile (path : String)
  | directory (path : String)
  | notRegular (path : String)
  | unsupportedType (typeName : String)
  | unfitValue (typeName : String)
  | condition (error : Condition.ParseError)
deriving DecidableEq

def ValueFault.message : ValueFault → String
  | noFile path => "is not file or directory: " ++ path
  | directory path => "expected file, but got directory: " ++ path
  | notRegular path => "expected regular file: " ++ path
  | unsupportedType typeName => "unsupported type: " ++ typeName
  | unfitValue typeName => "value is invalid " ++ typeName
  | condition error => error.text

abbrev ValueDefect := Located ValueFault

def ValueDefect.toError (defect : ValueDefect) : SpecError :=
  Located.toError .value ValueFault.message defect

end QueryCheck

import QueryCheck.Document
import QueryCheck.Text.Basic
import QueryCheck.Yaml.Resolution

/-!
# Reading documents

A document is written in YAML. Tags are dropped, keys become text, and whole numbers beyond 64 signed
bits become doubles.
-/

namespace QueryCheck.Document

inductive Fault where
  | malformed
  /-- A key that is a collection, or a value with a tag of its own. -/
  | unsupportedKey (key : Yaml.Value)

def Fault.message (complaint : String) : Fault → String
  | malformed => "error parsing YAML: " ++ complaint
  | unsupportedKey key => "unsupported mapping key: " ++ String.ofList key.diagnostic

def keyText : Yaml.Value → Except Fault String
  | .string name => .ok name
  | .bool true => .ok "true"
  | .bool false => .ok "false"
  | .integer n => .ok (String.ofList (intText n))
  | .float x => .ok (String.ofList (Yaml.Value.floatLayout.text x))
  | .null => .ok "null"
  | key => .error (.unsupportedKey key)

mutual

def ofYaml : Yaml.Value → Except Fault Document
  | .null => .ok null
  | .bool b => .ok (bool b)
  | .integer n =>
    match int64OfInt n with
    | some value => .ok (integer value)
    | none => .ok (float (Float.ofInt n))
  | .float x => .ok (float x)
  | .string value => .ok (text value)
  | .sequence items => (itemsOfYaml items).map sequence
  | .mapping entries => (entriesOfYaml entries).map mapping
  | .tagged _ value => ofYaml value

def itemsOfYaml : List Yaml.Value → Except Fault (List Document)
  | [] => .ok []
  | item :: rest => do
    let first ← ofYaml item
    let others ← itemsOfYaml rest
    .ok (first :: others)

def entriesOfYaml : List (Yaml.Value × Yaml.Value) → Except Fault (List (String × Document))
  | [] => .ok []
  | (key, value) :: rest => do
    let name ← keyText key
    let entry ← ofYaml value
    let others ← entriesOfYaml rest
    .ok ((name, entry) :: others)

end

/-- A text of blanks only is a null document. -/
def read (source : String) : Except Fault Document :=
  if (Text.trim source.toList).isEmpty then .ok null
  else
    match Yaml.read? source.toList with
    | some value => ofYaml value
    | none => .error .malformed

end QueryCheck.Document

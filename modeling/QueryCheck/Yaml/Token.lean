/-!
# Tokens of a YAML text
-/

namespace QueryCheck.Yaml

/-- The octets of an address. They need not be UTF-8, because any octet can be written as a number. -/
abbrev Octets := List UInt8

def octetsOfAscii (text : List Char) : Octets :=
  text.map fun c => UInt8.ofNat c.toNat

structure RawTag where
  handle : String
  suffix : Octets
deriving DecidableEq

inductive Token where
  | versionDirective (major minor : Nat)
  | tagDirective (handle : String) (start : Octets)
  | documentStart
  | documentEnd
  | blockSequenceStart
  | blockMappingStart
  | blockEnd
  | flowSequenceStart
  | flowSequenceEnd
  | flowMappingStart
  | flowMappingEnd
  | blockEntry
  | flowEntry
  | key
  | value
  | reference (name : String)
  | anchor (name : String)
  | tag (tag : RawTag)
  /-- Text; `plain` when it is neither quoted nor a block. -/
  | scalar (text : String) (plain : Bool)
  | streamEnd
deriving DecidableEq

end QueryCheck.Yaml

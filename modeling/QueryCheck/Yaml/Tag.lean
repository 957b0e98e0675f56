import QueryCheck.Number.Digits
import QueryCheck.Text.Hex
import QueryCheck.Yaml.Cursor
import QueryCheck.Yaml.Token

/-!
# Names, tags and directives
-/

namespace QueryCheck.Yaml

/-- The name behind the mark of an anchor or alias; something that cannot belong to it has to follow. -/
def readName (c : Cursor) : Option (String × Cursor) :=
  let (name, c) := (c.skip 1).takeWhile isWordChar
  if !name.isEmpty && (c.gapAt 0 || c.seesIn ("?:,]\x7d%@\x60".toList.contains ·)) then
    some (String.ofList name, c)
  else none

/-! ## Tags -/

def isUriChar (verbatim : Bool) (c : Char) : Bool :=
  isWordChar c || ";/?:@&=+$.%!~*'()".toList.contains c || (verbatim && ",[]".toList.contains c)

def octet? : List Char → Option (UInt8 × List Char)
  | '%' :: a :: b :: rest => (Text.ofRadix? 16 [a, b]).map fun n => (UInt8.ofNat n, rest)
  | _ => none

def followerCount? (octet : UInt8) : Option Nat :=
  if octet < 0x80 then some 0
  else if octet / 0x20 = 6 then some 1
  else if octet / 0x10 = 14 then some 2
  else if octet / 8 = 30 then some 3
  else none

def followers? : Nat → List Char → Option (Octets × List Char)
  | 0, text => some ([], text)
  | count + 1, text =>
    match octet? text with
    | some (octet, rest) =>
      if octet / 0x40 = 2 then
        (followers? count rest).map fun (octets, rest) => (octet :: octets, rest)
      else none
    | none => none

/-- A group of octets, each with its percent sign. Only the first bits of each are looked at, so the group
may be longer than its character needs or stand for none. -/
def uriEscape? (text : List Char) : Option (Octets × List Char) := do
  let (first, rest) ← octet? text
  let count ← followerCount? first
  let (others, rest) ← followers? count rest
  some (first :: others, rest)

def readUri (verbatim : Bool) : Nat → Octets → Cursor → Option (Octets × Cursor)
  | 0, uri, c => some (uri, c)
  | steps + 1, uri, c =>
    match c.peek with
    | some '%' =>
      match uriEscape? c.rest with
      | some (octets, rest) =>
        readUri verbatim steps (uri ++ octets) (c.skip (c.rest.length - rest.length))
      | none => none
    | some d =>
      if isUriChar verbatim d then readUri verbatim steps (uri ++ octetsOfAscii [d]) (c.skip 1)
      else some (uri, c)
    | none => some (uri, c)

/-- What an address says ends before its first zero octet. -/
def untilZero (uri : Octets) : Octets :=
  uri.takeWhile (· != 0)

def readFullUri (verbatim : Bool) (c : Cursor) : Option (Octets × Cursor) :=
  match readUri verbatim (c.rest.length + 1) [] c with
  | some (uri, next) => if uri.isEmpty then none else some (untilZero uri, next)
  | none => none

def takeHandle (c : Cursor) : List Char × Cursor :=
  let (name, c) := (c.skip 1).takeWhile isWordChar
  if c.sees '!' then ('!' :: name ++ ['!'], c.skip 1) else ('!' :: name, c)

def isFullHandle (handle : List Char) : Bool :=
  decide (2 ≤ handle.length) && handle.getLast? == some '!'

def readVerbatimTag (c : Cursor) : Option (RawTag × Cursor) := do
  let (uri, c) ← readFullUri true (c.skip 2)
  if c.sees '>' then some (⟨"", uri⟩, c.skip 1) else none

/-- A handle with an address behind it, or one mark with an address that may be empty. -/
def readShortTag (c : Cursor) : Option (RawTag × Cursor) :=
  let (handle, next) := takeHandle c
  if isFullHandle handle then
    (readFullUri false next).map fun (uri, c) => (⟨String.ofList handle, uri⟩, c)
  else
    (readUri false (next.rest.length + 1) [] next).map fun (uri, c) =>
      let suffix := untilZero (octetsOfAscii (handle.drop 1) ++ uri)
      (if suffix.isEmpty then ⟨"", octetsOfAscii ['!']⟩ else ⟨"!", suffix⟩, c)

/-- A tag is followed by a gap, or by a comma in a flow collection. -/
def readTag (flow : Bool) (c : Cursor) : Option (RawTag × Cursor) := do
  let (tag, c) ← if c.peekAt 1 == some '<' then readVerbatimTag c else readShortTag c
  if c.gapAt 0 || (flow && c.sees ',') then some (tag, c) else none

/-! ## Directives -/

def readVersionNumber (c : Cursor) : Option (Nat × Cursor) :=
  let (digits, c) := c.takeWhile Char.isDigit
  if digits.isEmpty || decide (9 < digits.length) then none else some (ofDigits digits, c)

def readVersion (c : Cursor) : Option (Token × Cursor) := do
  let (major, c) ← readVersionNumber (c.skipWhile isBlank)
  if c.sees '.' then
    let (minor, c) ← readVersionNumber (c.skip 1)
    some (.versionDirective major minor, c)
  else none

def readTagDirective (c : Cursor) : Option (Token × Cursor) := do
  let c := c.skipWhile isBlank
  if !c.sees '!' then none
  let (handle, c) := takeHandle c
  if handle ≠ ['!'] ∧ !isFullHandle handle then none
  if !c.seesIn isBlank then none
  let (uri, c) ← readFullUri true (c.skipWhile isBlank)
  if c.gapAt 0 then some (.tagDirective (String.ofList handle) uri, c) else none

def readDirective (c : Cursor) : Option (Token × Cursor) := do
  let (name, c) := (c.skip 1).takeWhile isWordChar
  if !c.gapAt 0 then none
  let (token, c) ←
    if name = "YAML".toList then readVersion c
    else if name = "TAG".toList then readTagDirective c
    else none
  let c ← c.skipRestOfLine
  some (token, c)

end QueryCheck.Yaml

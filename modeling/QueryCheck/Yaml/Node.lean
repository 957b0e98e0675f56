import QueryCheck.Yaml.Token

/-!
# From tokens to the nodes of a document

A stream holds at most one document. A place where a node is missing holds an empty plain scalar.
-/

namespace QueryCheck.Yaml

structure Properties where
  anchor : Option String
  tag : Option Octets
deriving DecidableEq

def Properties.none : Properties :=
  ⟨Option.none, Option.none⟩

/-- Aliases refer to anchors in the way `ρ`. -/
inductive Node (ρ : Type) where
  | reference (target : ρ)
  | scalar (properties : Properties) (text : String) (plain : Bool)
  | sequence (properties : Properties) (items : List (Node ρ))
  | mapping (properties : Properties) (entries : List (Node ρ × Node ρ))

namespace Node

def empty {ρ : Type} : Node ρ :=
  scalar .none "" true

def properties {ρ : Type} : Node ρ → Properties
  | reference _ => .none
  | scalar properties .. => properties
  | sequence properties _ => properties
  | mapping properties _ => properties

abbrev Written := Node String

abbrev Reader (α : Type) := List Token → Option (α × List Token)

/-! ## Tags -/

abbrev Handles := List (String × Octets)

def handleStart? (handles : Handles) (handle : String) : Option Octets :=
  (handles.find? fun entry => entry.1 == handle).map Prod.snd

def resolveTag (handles : Handles) (tag : RawTag) : Option Octets :=
  if tag.handle = "" then some tag.suffix
  else (handleStart? handles tag.handle).map (· ++ tag.suffix)

def standardHandles : Handles :=
  [("!", octetsOfAscii ['!']), ("!!", octetsOfAscii "tag:yaml.org,2002:".toList)]

/-- An anchor and a tag in either order, each at most once. -/
def readProperties (handles : Handles) : Reader Properties
  | .anchor anchor :: .tag tag :: rest =>
    (resolveTag handles tag).map fun tag => (⟨some anchor, some tag⟩, rest)
  | .tag tag :: .anchor anchor :: rest =>
    (resolveTag handles tag).map fun tag => (⟨some anchor, some tag⟩, rest)
  | .anchor anchor :: rest => some (⟨some anchor, none⟩, rest)
  | .tag tag :: rest => (resolveTag handles tag).map fun tag => (⟨none, some tag⟩, rest)
  | rest => some (.none, rest)

/-! ## Nodes -/

def endsBlockPlace : Token → Bool
  | .key => true
  | .value => true
  | .blockEnd => true
  | _ => false

mutual

/-- One node. Block collections may begin where `block` is set, and a sequence at the column of the
mapping that holds it where `indentless` is set. -/
def node (handles : Handles) (block indentless : Bool) : Nat → Reader Written
  | 0, _ => none
  | steps + 1, tokens =>
    match tokens with
    | .reference name :: rest => some (reference name, rest)
    | _ =>
      match readProperties handles tokens with
      | none => none
      | some (p, tokens) =>
        match tokens, block, indentless with
        | .blockEntry :: _, _, true =>
          (indentlessItems handles steps tokens).map fun (items, rest) => (sequence p items, rest)
        | .scalar text plain :: rest, _, _ => some (scalar p text plain, rest)
        | .flowSequenceStart :: rest, _, _ =>
          (flowItems handles steps true rest).map fun (items, rest) => (sequence p items, rest)
        | .flowMappingStart :: rest, _, _ =>
          (flowEntries handles steps true rest).map fun (entries, rest) => (mapping p entries, rest)
        | .blockSequenceStart :: rest, true, _ =>
          (blockItems handles steps rest).map fun (items, rest) => (sequence p items, rest)
        | .blockMappingStart :: rest, true, _ =>
          (blockEntries handles steps rest).map fun (entries, rest) => (mapping p entries, rest)
        | _, _, _ => if p = .none then none else some (scalar p "" true, tokens)

def blockItems (handles : Handles) : Nat → Reader (List Written)
  | 0, _ => none
  | steps + 1, tokens =>
    match tokens with
    | .blockEnd :: rest => some ([], rest)
    | .blockEntry :: .blockEntry :: rest =>
      (blockItems handles steps (.blockEntry :: rest)).map fun (items, rest) => (empty :: items, rest)
    | .blockEntry :: .blockEnd :: rest => some ([empty], rest)
    | .blockEntry :: rest =>
      match node handles true false steps rest with
      | none => none
      | some (item, rest) =>
        (blockItems handles steps rest).map fun (items, rest) => (item :: items, rest)
    | _ => none

/-- The sequence ends before the first token that is no entry. -/
def indentlessItems (handles : Handles) : Nat → Reader (List Written)
  | 0, _ => none
  | steps + 1, tokens =>
    match tokens with
    | .blockEntry :: next :: rest =>
      if next = .blockEntry ∨ endsBlockPlace next then
        (indentlessItems handles steps (next :: rest)).map fun (items, rest) => (empty :: items, rest)
      else
        match node handles true false steps (next :: rest) with
        | none => none
        | some (item, rest) =>
          (indentlessItems handles steps rest).map fun (items, rest) => (item :: items, rest)
    | rest => some ([], rest)

def blockPlace (handles : Handles) : Nat → Reader Written
  | 0, _ => none
  | steps + 1, tokens =>
    match tokens with
    | next :: _ =>
      if endsBlockPlace next then some (empty, tokens) else node handles true true steps tokens
    | [] => none

def blockEntries (handles : Handles) : Nat → Reader (List (Written × Written))
  | 0, _ => none
  | steps + 1, tokens =>
    match tokens with
    | .blockEnd :: rest => some ([], rest)
    | .key :: rest =>
      match blockPlace handles steps rest with
      | none => none
      | some (key, rest) =>
        let value : Option (Written × List Token) :=
          match rest with
          | .value :: rest => blockPlace handles steps rest
          | rest => some (empty, rest)
        match value with
        | none => none
        | some (value, rest) =>
          (blockEntries handles steps rest).map fun (entries, rest) => ((key, value) :: entries, rest)
    | _ => none

def flowItems (handles : Handles) : Nat → Bool → Reader (List Written)
  | 0, _, _ => none
  | steps + 1, first, tokens =>
    match tokens, first with
    | .flowSequenceEnd :: rest, _ => some ([], rest)
    | .flowEntry :: .flowSequenceEnd :: rest, false => some ([], rest)
    | .flowEntry :: rest, false => flowItem handles steps rest
    | tokens, true => flowItem handles steps tokens
    | _, false => none

/-- An item of a flow sequence with those after it. A key makes a mapping of one entry; when nothing
stands between the key mark and what follows it, that token is passed over. -/
def flowItem (handles : Handles) : Nat → Reader (List Written)
  | 0, _ => none
  | steps + 1, tokens =>
    let item : Option (Written × List Token) :=
      match tokens with
      | .key :: rest =>
        let key : Option (Written × List Token) :=
          match rest with
          | .value :: rest => some (empty, rest)
          | .flowEntry :: rest => some (empty, rest)
          | .flowSequenceEnd :: rest => some (empty, rest)
          | rest => node handles false false steps rest
        match key with
        | none => none
        | some (key, rest) =>
          let value : Option (Written × List Token) :=
            match rest with
            | .value :: .flowEntry :: rest => some (empty, .flowEntry :: rest)
            | .value :: .flowSequenceEnd :: rest => some (empty, .flowSequenceEnd :: rest)
            | .value :: rest => node handles false false steps rest
            | rest => some (empty, rest)
          value.map fun (value, rest) => (mapping .none [(key, value)], rest)
      | tokens => node handles false false steps tokens
    match item with
    | none => none
    | some (item, rest) =>
      (flowItems handles steps false rest).map fun (items, rest) => (item :: items, rest)

def flowEntries (handles : Handles) : Nat → Bool → Reader (List (Written × Written))
  | 0, _, _ => none
  | steps + 1, first, tokens =>
    match tokens, first with
    | .flowMappingEnd :: rest, _ => some ([], rest)
    | .flowEntry :: .flowMappingEnd :: rest, false => some ([], rest)
    | .flowEntry :: rest, false => flowMappingEntry handles steps rest
    | tokens, true => flowMappingEntry handles steps tokens
    | _, false => none

/-- A node in a flow mapping, or the empty one; a key may also end before its value. -/
def flowPlace (handles : Handles) (isKey : Bool) : Nat → Reader Written
  | 0, _ => none
  | steps + 1, tokens =>
    match tokens, isKey with
    | .flowEntry :: _, _ => some (empty, tokens)
    | .flowMappingEnd :: _, _ => some (empty, tokens)
    | .value :: _, true => some (empty, tokens)
    | _, _ => node handles false false steps tokens

/-- An entry of a flow mapping with those after it; a node alone is a key without value. -/
def flowMappingEntry (handles : Handles) : Nat → Reader (List (Written × Written))
  | 0, _ => none
  | steps + 1, tokens =>
    let entry : Option ((Written × Written) × List Token) :=
      match tokens with
      | .key :: rest =>
        match flowPlace handles true steps rest with
        | none => none
        | some (key, .value :: rest) =>
          (flowPlace handles false steps rest).map fun (value, rest) => ((key, value), rest)
        | some (key, rest) => some ((key, empty), rest)
      | tokens => (node handles false false steps tokens).map fun (key, rest) => ((key, empty), rest)
    match entry with
    | none => none
    | some (entry, rest) =>
      (flowEntries handles steps false rest).map fun (entries, rest) => (entry :: entries, rest)

end

/-! ## Documents -/

structure Directives where
  version : Option (Nat × Nat)
  handles : Handles

/-- Each directive may be given once, and the version is 1.1 or 1.2. -/
def readDirectives (found : Directives) : Reader Directives
  | .versionDirective major minor :: rest =>
    if found.version = none ∧ major = 1 ∧ (minor = 1 ∨ minor = 2) then
      readDirectives { found with version := some (major, minor) } rest
    else none
  | .tagDirective handle start :: rest =>
    if (handleStart? found.handles handle).isSome then none
    else readDirectives { found with handles := found.handles ++ [(handle, start)] } rest
  | rest => some (found, rest)

def isDirective : Token → Bool
  | .versionDirective .. => true
  | .tagDirective .. => true
  | _ => false

def endsDocument (token : Token) : Bool :=
  isDirective token || token = .documentStart || token = .documentEnd || token = .streamEnd

def steps (tokens : List Token) : Nat :=
  4 * tokens.length + 4

def explicitDocument (tokens : List Token) : Option (Written × List Token) := do
  let (found, rest) ← readDirectives ⟨none, []⟩ tokens
  match rest with
  | .documentStart :: next :: rest =>
    if endsDocument next then some (empty, next :: rest)
    else node (found.handles ++ standardHandles) true false (steps tokens) (next :: rest)
  | _ => none

def document (tokens : List Token) : Option (Written × List Token) :=
  match tokens with
  | token :: _ =>
    if isDirective token || token = .documentStart then explicitDocument tokens
    else node standardHandles true false (steps tokens) tokens
  | [] => none

def onlyEnds : List Token → Bool
  | [.streamEnd] => true
  | .documentEnd :: rest => onlyEnds rest
  | _ => false

/-- The only document of a stream; an empty stream stands for an empty node. -/
def ofTokens? (tokens : List Token) : Option Written :=
  if tokens = [.streamEnd] then some empty
  else
    match document tokens with
    | some (root, rest) => if onlyEnds rest then some root else none
    | none => none

end Node

end QueryCheck.Yaml

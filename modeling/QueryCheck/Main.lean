import QueryCheck.CommandLine

/-!
# The program

The files that a run may need are read first: those below the working directory, those that the command
line names, and the query files of the specifications. No request leaves the program, and nothing is
logged.
-/

namespace QueryCheck.Program

def maxDepth : Nat := 64

/-- A file, or a directory with what lies in it, down to a depth. What cannot be read is left out, and so
are links to directories. -/
def nodeWithin : Nat → IO.FS.DirEntry → IO FileNode
  | 0, _ => return .device
  | depth + 1, entry => do
    match (← entry.path.metadata).type with
    | .file => return .file (← IO.FS.readBinFile entry.path)
    | .dir =>
      let mut entries : List (String × FileNode) := []
      for inner in ← entry.path.readDir do
        try
          let linked := (← inner.path.symlinkMetadata).type == .symlink
          unless linked && (← inner.path.isDir) do
            entries := (inner.fileName, ← nodeWithin depth inner) :: entries
        catch _ => pure ()
      return .directory entries
    | _ => return .device

/-- The names on the way to an absolute path, without steps back. -/
def namesOf (path : String) : List String :=
  ((path.toList.splitOn '/').map String.ofList).foldl (fun names name =>
    if name = "" ∨ name = "." then names
    else if name = ".." then names.dropLast
    else names ++ [name]) []

def absolute (here path : String) : String :=
  if path.startsWith "/" then path else here ++ "/" ++ path

def withPath (top : FileNode) (path : String) : IO FileNode := do
  try
    let node ← nodeWithin maxDepth { root := "", fileName := path }
    return node.put (namesOf path) top
  catch _ => return top

def elsewhere (here : String) (paths : List String) : List String :=
  (paths.map (absolute here)).filter fun path => !(namesOf here).isPrefixOf (namesOf path)

def optionPaths (options : CommandLine.Options) : List String :=
  [options.file, options.directory, options.rows, options.config].filterMap id

/-- The readers of this program say no more than that a text is refused. -/
def complaint : FileFormat → String → String
  | .yaml, _ => "not a well-formed document"
  | .toml, _ => "not a configuration"
  | .json, _ => "not JSON"

def queryPath? (files : FileSystem) (path : String) : Option String :=
  match files.readText path with
  | .error _ => none
  | .ok text =>
    match Document.read text with
    | .error _ => none
    | .ok doc => (RawSpec.ofDocument doc).toOption.map RawSpec.queryPath

def queryPaths (files : FileSystem) (options : CommandLine.Options) : List String :=
  match Discovery.find files options.file options.chosenDirectory with
  | .error _ => []
  | .ok paths => paths.filterMap (queryPath? files)

def filesFor (options : CommandLine.Options) : IO FileSystem := do
  let here := (← IO.currentDir).toString
  let named ← (here :: elsewhere here (optionPaths options)).foldlM withPath (.directory [])
  let queries := queryPaths (.ofTree named (namesOf here) complaint) options
  let top ← (elsewhere here queries).foldlM withPath named
  return .ofTree top (namesOf here) complaint

def environment : IO Configuration.Environment := do
  let mut found : Fields String := []
  for name in Configuration.projectVariable :: Configuration.tokenVariables do
    if let some value ← IO.getEnv name then
      found := Fields.insert name value found
  return fun name => Fields.get? name found

def filesOf (words : List String) : IO FileSystem :=
  match CommandLine.Invocation.ofWords words with
  | .run options => filesFor options
  | _ => return ⟨[], complaint⟩

end QueryCheck.Program

def main (words : List String) : IO UInt32 := do
  let files ← QueryCheck.Program.filesOf words
  let environment ← QueryCheck.Program.environment
  let (ended, _) := QueryCheck.CommandLine.run files environment words .offline
  (← IO.getStdout).putStr ended.out
  (← IO.getStderr).putStr ended.err
  return UInt32.ofNat ended.code

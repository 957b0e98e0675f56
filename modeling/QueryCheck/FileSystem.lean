import QueryCheck.Fields

/-!
# Files

A tree of directories with the place in it where relative paths start. Looking a path up and reading a
file fail as the operating system does, with its words. A text that is not of its format is refused in the
words of the format's reader, which are given with the tree.
-/

namespace QueryCheck

inductive FileNode where
  | file (content : ByteArray)
  /-- Neither a regular file nor a directory; it holds nothing. -/
  | device
  | directory (entries : List (String × FileNode))
deriving Inhabited

inductive FileFormat where
  | yaml
  | toml
  | json

structure FileSystem where
  /-- The directories on the way from the working directory up to the top of the tree. -/
  here : List FileNode
  /-- What the reader of a format says of a text that it refuses. -/
  complaint : FileFormat → String → String

inductive FileFault where
  | absent
  | notDirectory
  | isDirectory
  | nameTooLong
  | nameWithNul
  | notText
deriving DecidableEq

def FileFault.message : FileFault → String
  | absent => "No such file or directory (os error 2)"
  | notDirectory => "Not a directory (os error 20)"
  | isDirectory => "Is a directory (os error 21)"
  | nameTooLong => "File name too long (os error 36)"
  | nameWithNul => "file name contained an unexpected NUL byte"
  | notText => "stream did not contain valid UTF-8"

namespace FileNode

def entries : FileNode → List (String × FileNode)
  | directory entries => entries
  | _ => []

/-- The directory with a node put at a path of names; directories on the way are made. -/
def put (node : FileNode) : List String → FileNode → FileNode
  | [], _ => node
  | name :: rest, parent =>
    let old := (Fields.get? name parent.entries).getD (directory [])
    directory (Fields.insert name (put node rest old) parent.entries)

end FileNode

namespace FileSystem

def maxNameBytes : Nat := 255

def maxPathBytes : Nat := 4095

/-- One step of a path from a node, given with all directories above it. -/
def step (trail : List FileNode) (name : String) : Except FileFault (List FileNode) :=
  match trail with
  | .directory entries :: above =>
    if name = "" ∨ name = "." then .ok trail
    else if name = ".." then .ok (if above.isEmpty then trail else above)
    else if maxNameBytes < name.utf8ByteSize then .error .nameTooLong
    else
      match Fields.get? name entries with
      | some node => .ok (node :: trail)
      | none => .error .absent
  | _ => .error .notDirectory

def follow (trail : List FileNode) : List String → Except FileFault (List FileNode)
  | [] => .ok trail
  | name :: rest =>
    match step trail name with
    | .ok next => follow next rest
    | .error fault => .error fault

/-- The tree below a top directory, with the working directory at a path of names. -/
def ofTree (top : FileNode) (path : List String) (complaint : FileFormat → String → String) : FileSystem :=
  match follow [top] path with
  | .ok trail => ⟨trail, complaint⟩
  | .error _ => ⟨[top], complaint⟩

/-- Where a path starts: at the top of the tree behind a slash, else in the working directory. -/
def start (fs : FileSystem) (path : List Char) : List FileNode :=
  match path with
  | '/' :: _ => fs.here.getLast?.toList
  | _ => fs.here

def find (fs : FileSystem) (path : String) : Except FileFault FileNode :=
  let chars := path.toList
  if chars.isEmpty then .error .absent
  else if chars.contains (Char.ofNat 0) then .error .nameWithNul
  else if maxPathBytes < path.utf8ByteSize then .error .nameTooLong
  else
    match follow (fs.start chars) ((chars.splitOn '/').map String.ofList) with
    | .ok (node :: _) => .ok node
    | .ok [] => .error .absent
    | .error fault => .error fault

def isFile (fs : FileSystem) (path : String) : Bool :=
  match fs.find path with
  | .ok (.file _) => true
  | _ => false

def readText (fs : FileSystem) (path : String) : Except FileFault String :=
  match fs.find path with
  | .error fault => .error fault
  | .ok (.directory _) => .error .isDirectory
  | .ok .device => .ok ""
  | .ok (.file content) =>
    match String.fromUTF8? content with
    | some text => .ok text
    | none => .error .notText

end FileSystem

end QueryCheck

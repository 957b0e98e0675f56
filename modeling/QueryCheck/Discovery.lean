import QueryCheck.FileSystem
import QueryCheck.Text.Basic

/-!
# Finding specification files

A file that is named is taken whatever its name. In a directory all files are taken, at any depth, whose
names end like those of specifications, in the order of their paths.
-/

namespace QueryCheck

inductive DiscoveryFault where
  | notFile (path : String)
  | notDirectory (path : String)
deriving DecidableEq

def DiscoveryFault.message : DiscoveryFault → String
  | notFile path => "error: '" ++ path ++ "' is not a file"
  | notDirectory path => "error: '" ++ path ++ "' is not a directory"

namespace Discovery

def endings : List (List Char) :=
  [".yaml".toList, ".yml".toList]

/-- Something has to stand before the ending. -/
def isSpecificationName (name : String) : Bool :=
  let chars := name.toList
  endings.any fun ending => ending.isSuffixOf chars && decide (ending.length < chars.length)

mutual

def filePaths : FileNode → List (List String)
  | .file _ => [[]]
  | .device => []
  | .directory entries => entryPaths entries

def entryPaths : List (String × FileNode) → List (List String)
  | [] => []
  | (name, node) :: rest => (filePaths node).map (name :: ·) ++ entryPaths rest

end

def precedes (left right : List String) : Bool :=
  List.compareLex Text.order left right != .gt

def specificationPaths (node : FileNode) : List (List String) :=
  ((filePaths node).filter fun path => (path.getLast?).any isSpecificationName).mergeSort precedes

def join (directory : String) (name : String) : String :=
  if directory.endsWith "/" then directory ++ name else directory ++ "/" ++ name

def find (files : FileSystem) (file : Option String) (directory : String) :
    Except DiscoveryFault (List String) :=
  match file with
  | some path => if files.isFile path then .ok [path] else .error (.notFile path)
  | none =>
    match files.find directory with
    | .ok (.directory entries) =>
      .ok ((specificationPaths (.directory entries)).map fun path => path.foldl join directory)
    | _ => .error (.notDirectory directory)

end Discovery

end QueryCheck

import ServiceHealth.Files.Basic

/-!
# File systems in memory

A file tree lists files and directories by the names on the way to them from the
root; the directories on the way to a listed entry are there too.  A path is
followed name by name, from the root or from the working directory; neither a
name nor a path may be too long.
-/

namespace ServiceHealth

/-- Files and directories in memory. -/
structure FileTree where
  /-- The names on the way to each entry, and its bytes if it is a file. -/
  entries : List (List String × Option (List UInt8))
  workingDirectory : List String

namespace FileTree

/-- What is at the end of a way of names. -/
inductive Place where
  | nothing
  | file (bytes : List UInt8)
  | directory
  deriving DecidableEq, Repr

/-- What is at the end of a way of names from the root. -/
def place (tree : FileTree) (way : List String) : Place :=
  match tree.entries.lookup way with
  | some (some bytes) => .file bytes
  | some none => .directory
  | none =>
    if way.isEmpty || tree.entries.any (fun entry => way.isPrefixOf entry.1) then .directory
    else .nothing

/-- The names in a directory. -/
def names (tree : FileTree) (way : List String) : List String :=
  (tree.entries.filterMap fun entry =>
    if way.isPrefixOf entry.1 then (entry.1.drop way.length).head? else none).eraseDups

/-- The most bytes that a name may have. -/
def maxNameSize : Nat := 255

/-- The most bytes that a path may have. -/
def maxPathSize : Nat := 4095

/-- Goes from a directory to what one part of a path stands for. -/
def enter (tree : FileTree) (way : List String) (part : String) :
    Except FileFault (List String) :=
  match tree.place way with
  | .nothing => .error .missing
  | .file _ => .error .notDirectory
  | .directory =>
    if part.isEmpty || part == "." then .ok way
    else if part == ".." then .ok way.dropLast
    else if maxNameSize < part.utf8ByteSize then .error .tooLong
    else .ok (way ++ [part])

/-- Follows the parts of a path from a place; every part but the last has to be a directory. -/
def follow (tree : FileTree) (way : List String) (parts : List String) :
    Except FileFault (List String) :=
  parts.foldlM tree.enter way

/-- The parts of a path between its slashes. -/
def parts (path : String) : List String :=
  (path.toList.splitOn '/').map String.ofList

/-- Why no place can have this path, wherever it starts. -/
def pathFault? (path : String) : Option FileFault :=
  if path.toList.contains (Char.ofNat 0) then some .zeroChar
  else if path.isEmpty then some .missing
  else if maxPathSize < path.utf8ByteSize then some .tooLong
  else none

/-- Where a path starts: at the root or at the working directory. -/
def origin (tree : FileTree) (path : String) : List String :=
  if Path.isAbsolute path then [] else tree.workingDirectory

/-- The way of names that a path stands for. -/
def way (tree : FileTree) (path : String) : Except FileFault (List String) :=
  match pathFault? path with
  | some fault => .error fault
  | none => tree.follow (tree.origin path) (parts path)

/-- What is at a path. -/
def node (tree : FileTree) (path : String) : Node :=
  match tree.way path with
  | .error fault => .absent fault
  | .ok way =>
    match tree.place way with
    | .nothing => .absent .missing
    | .file bytes => .file (.ok bytes)
    | .directory => .directory (.ok (tree.names way))

/-- The way to the file that a path stands for if that may be made: its last part
is a name, which no slash follows, and what is before it leads to a directory. -/
def wayToFile (tree : FileTree) (path : String) : Except FileFault (List String) :=
  match pathFault? path with
  | some fault => .error fault
  | none => do
    let parts := parts path
    let trimmed := (parts.reverse.dropWhile (·.isEmpty)).reverse
    let directory ← tree.follow (tree.origin path) trimmed.dropLast
    let name := trimmed.getLastD "."
    let _ ← tree.enter directory "."
    if name == "." || name == ".." || trimmed.length < parts.length then throw .directory
    tree.enter directory name

/-- The tree after the file at a path was opened to add lines to it: a file that is
not there is made. -/
def opened (tree : FileTree) (path : String) : Except FileFault FileTree := do
  let way ← tree.wayToFile path
  match tree.place way with
  | .directory => throw .directory
  | .file _ => return tree
  | .nothing => return { tree with entries := tree.entries ++ [(way, some [])] }

/-- The file system of a tree. -/
def toFileSystem (tree : FileTree) : FileSystem where
  node := tree.node
  opened path := (tree.opened path).map node

end FileTree

end ServiceHealth

import ServiceHealth.Error.Basic
import ServiceHealth.Text.Utf8

/-!
# File systems

A run reads configuration files and feature files, and lists directories.  A file
system says for every path what is there, and what becomes of it when a file is
opened to add lines to it.
-/

namespace ServiceHealth

/-- What is at a path. -/
inductive Node where
  /-- Nothing that can be reached. -/
  | absent (fault : FileFault)
  | file (contents : Except FileFault (List UInt8))
  /-- The names in a directory, in no certain order. -/
  | directory (names : Except String (List String))
  /-- Neither a file nor a directory; it may be read all the same. -/
  | special (contents : Except FileFault (List UInt8))

/-- What is at every path. -/
structure FileSystem where
  node : (path : String) → Node
  /-- What is at every path after the file at this path was opened to add lines to
  it, which makes a file that is not there. -/
  opened : (path : String) → Except FileFault (String → Node)

namespace FileSystem

/-- The file system after the file at a path was opened to add lines to it. -/
def openToAppend (files : FileSystem) (path : String) : Except FileFault FileSystem :=
  (files.opened path).map fun node => { files with node }

/-- A path leads to a directory. -/
def isDirectory (files : FileSystem) (path : String) : Bool :=
  match files.node path with
  | .directory _ => true
  | _ => false

/-- A path leads to a file. -/
def isFile (files : FileSystem) (path : String) : Bool :=
  match files.node path with
  | .file _ => true
  | _ => false

/-- A path leads to something. -/
def isPresent (files : FileSystem) (path : String) : Bool :=
  match files.node path with
  | .absent _ => false
  | _ => true

/-- The bytes that can be read at a path. -/
def read (files : FileSystem) (path : String) : Except FileFault (List UInt8) :=
  match files.node path with
  | .absent fault => .error fault
  | .directory _ => .error .directory
  | .file contents => contents
  | .special contents => contents

/-- The text that can be read at a path. -/
def readText (files : FileSystem) (path : String) : Except Error String :=
  match files.read path with
  | .error fault => .error (.fileRead path fault)
  | .ok bytes =>
    match Text.Utf8.decode? bytes with
    | none => .error (.fileRead path .notText)
    | some text => .ok text

end FileSystem

/-! ## Paths -/

namespace Path

/-- The path starts at the root. -/
def isAbsolute (path : String) : Bool :=
  path.toList.head? == some '/'

/-- The path of a name in a directory. -/
def join (directory name : String) : String :=
  if isAbsolute name then name
  else if directory.isEmpty || directory.toList.getLast? == some '/' then directory ++ name
  else directory ++ "/" ++ name

end Path

end ServiceHealth

import ServiceHealth.Feature.Grammar
import ServiceHealth.Files.Basic

/-!
# Feature files

A run is given paths.  A file is taken as it is; a directory stands for the files
directly inside it that have the extension `feature`, in the order of their names.
A text that follows the grammar becomes a feature.
-/

namespace ServiceHealth.Feature

/-- The extension of a feature file, with its point. -/
def extension : List Char :=
  ".feature".toList

/-- The name has the extension of a feature file, after at least one character. -/
def isFeatureName (name : String) : Bool :=
  extension.isSuffixOf name.toList && name.toList != extension

/-- The names of the feature files in a directory. -/
def featureNames (files : FileSystem) (directory : String) (names : List String) : List String :=
  names.filter fun name => isFeatureName name && files.isFile (Path.join directory name)

/-- The feature files in a directory, in the order of their names. -/
def featureFiles (files : FileSystem) (directory : String) (names : List String) : List String :=
  ((featureNames files directory names).mergeSort fun first second => decide (first ≤ second)).map
    (Path.join directory)

/-- The files that one path stands for. -/
def expand (files : FileSystem) (path : String) : Except Error (List String) :=
  match files.node path with
  | .directory (.ok names) => .ok (featureFiles files path names)
  | .directory (.error detail) => .error (.io detail)
  | .file _ => .ok [path]
  | _ => .error (.fileRead path .notFound)

/-- The files that paths stand for, in the order of the paths. -/
def collect (files : FileSystem) : (paths : List String) → Except Error (List String)
  | [] => .ok []
  | path :: paths =>
    match expand files path with
    | .error error => .error error
    | .ok found =>
      match collect files paths with
      | .error error => .error error
      | .ok others => .ok (found ++ others)

/-- The feature that a text describes; errors name where the text comes from.  What a parser
would report about a text that describes none, such as the place of the fault, is not modelled:
the detail has one wording for all of them. -/
def parse (text origin : String) : Except Error Feature :=
  match Document.read? text with
  | none => .error (.featureSyntax origin "the text does not follow the grammar of feature files")
  | some document => .ok (document.toFeature none)

/-- The feature in a file. -/
def load (files : FileSystem) (path : String) : Except Error Feature :=
  match files.readText path with
  | .error error => .error error
  | .ok text => (parse text path).map fun feature => ⟨feature.name, some path, feature.scenarios⟩

end ServiceHealth.Feature

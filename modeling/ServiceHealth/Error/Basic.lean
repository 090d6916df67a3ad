import ServiceHealth.Error.Assertion
import ServiceHealth.Step.Kind
import ServiceHealth.Text.Blank

/-!
# Errors

Everything that can stop a step, a scenario or a whole run, as causes; the
wording of each cause is in `Error.message`.  Only a service that never gets
ready ends a run for good.
-/

namespace ServiceHealth

/-- What is wrong with an argument of a step or of a request. -/
inductive ArgumentFault where
  | notInteger (raw : String)
  | missing (index : Nat)
  | notText (index : Nat)
  | notNumber (index : Nat)
  | negativeCount (count : Int)
  | notStatus (status : Int)
  | headerName (name : String)
  | headerValue (value : String)
  | stated (reason : String)
  deriving DecidableEq, Repr

/-- What is wrong with an argument, in words. -/
def ArgumentFault.message : ArgumentFault → String
  | .notInteger raw => "'" ++ raw ++ "' is not a valid integer"
  | .missing index => s!"missing argument {index}"
  | .notText index => s!"argument {index} is an integer, expected a string"
  | .notNumber index => s!"argument {index} is a string, expected an integer"
  | .negativeCount count => s!"request count must be non-negative, got {count}"
  | .notStatus status => s!"{status} is not an HTTP status code"
  | .headerName name => "Invalid header name '" ++ name ++ "': invalid HTTP header name"
  | .headerValue value => "Invalid header value '" ++ value ++ "': failed to parse header value"
  | .stated reason => reason

/-- What is wrong with the configuration of a run or of a registry. -/
inductive SetupFault where
  | portEmpty (raw : String)
  | portInvalid (value raw : String)
  | unclosedPlaceholder (pattern : String)
  | unknownPlaceholder (placeholder pattern : String)
  | alreadyRegistered (kind : Step.Kind) (pattern : String)
  | stated (reason : String)
  deriving DecidableEq, Repr

/-- What is wrong with the configuration, in words. -/
def SetupFault.message : SetupFault → String
  | .portEmpty raw => "SERVER_PORT is empty (raw value '" ++ raw ++ "')"
  | .portInvalid value raw =>
    "Invalid port '" ++ value ++ "' in SERVER_PORT (raw value '" ++ raw ++ "')"
  | .unclosedPlaceholder pattern =>
    "Unclosed placeholder in step pattern '" ++ pattern ++ "'"
  | .unknownPlaceholder placeholder pattern =>
    "Unknown placeholder '\x7b" ++ placeholder ++ "\x7d' in step pattern '" ++ pattern ++ "'"
  | .alreadyRegistered kind pattern =>
    "Step '" ++ kind.name ++ " " ++ pattern ++ "' is already registered"
  | .stated reason => reason

/-- Why a file cannot be used. -/
inductive FileFault where
  /-- Nothing has this name. -/
  | missing
  /-- It is a directory. -/
  | directory
  /-- Something in the middle of the path is a file. -/
  | notDirectory
  /-- The path or one of its names has too many bytes. -/
  | tooLong
  /-- The path has a zero character, which no name may have. -/
  | zeroChar
  /-- Its bytes are not a text. -/
  | notText
  /-- An argument of the command line names neither a file nor a directory. -/
  | notFound
  | stated (reason : String)
  deriving DecidableEq, Repr

/-- Why a file cannot be used, in words. -/
def FileFault.message : FileFault → String
  | .missing => "No such file or directory (os error 2)"
  | .directory => "Is a directory (os error 21)"
  | .notDirectory => "Not a directory (os error 20)"
  | .tooLong => "File name too long (os error 36)"
  | .zeroChar => "file name contained an unexpected NUL byte"
  | .notText => "stream did not contain valid UTF-8"
  | .notFound => "no such file or directory"
  | .stated reason => reason

/-- What can go wrong. -/
inductive Error where
  /-- No probe among the allowed attempts was answered with 200. -/
  | serverNotReady (url : String) (port attempts : Nat) (lastFailure : String)
  /-- A check failed. -/
  | assertion (reason : Assertion)
  /-- A check reads a record that no earlier step of its scenario has made. -/
  | missingPrecedent (key : String)
  /-- No definition matches a line. -/
  | undefinedStep (keyword text : String)
  /-- Several definitions match a line. -/
  | ambiguousStep (text : String) (patterns : List String)
  | stepArgument (fault : ArgumentFault)
  | setup (fault : SetupFault)
  /-- A configuration file does not hold a configuration. -/
  | configFile (detail : String)
  | fileRead (path : String) (fault : FileFault)
  | fileWrite (path : String) (fault : FileFault)
  /-- A feature file does not follow the grammar. -/
  | featureSyntax (path detail : String)
  | io (detail : String)
  | httpClient (detail : String)

namespace Error

/-- What went wrong, in words. -/
def message : Error → String
  | .serverNotReady url port attempts lastFailure =>
    "Failed to connect to server at " ++ url ++ s!" after {attempts} attempts (last failure: " ++
      lastFailure ++
      s!"). Make sure the service is running and listening on port {port}"
  | .assertion reason => "Assertion failed: " ++ reason.message
  | .missingPrecedent key =>
    "Missing precedent: no '" ++ key ++
      "' recorded in this scenario. A request step must run before this check"
  | .undefinedStep keyword text => "Undefined step: " ++ keyword ++ " " ++ text
  | .ambiguousStep text patterns =>
    "Ambiguous step '" ++ text ++ s!"' matches {patterns.length} definitions: " ++
      ", ".intercalate (patterns.map fun pattern => "'" ++ pattern ++ "'")
  | .stepArgument fault => "Invalid step argument: " ++ fault.message
  | .setup fault => "Configuration error: " ++ fault.message
  | .configFile detail => "Invalid configuration file: " ++ detail
  | .fileRead path fault => "Failed to read file '" ++ path ++ "': " ++ fault.message
  | .fileWrite path fault => "Failed to open '" ++ path ++ "' for writing: " ++ fault.message
  | .featureSyntax path detail =>
    "Failed to parse feature file '" ++ path ++ "': " ++ detail
  | .io detail => "IO error: " ++ detail
  | .httpClient detail => "HTTP client error: " ++ detail

/-- The error ends the whole run, not only one scenario or file. -/
def endsRun : Error → Bool
  | .serverNotReady .. => true
  | _ => false

/-- No definition matches a line; blanks around its keyword do not matter. -/
def undefined (keyword text : String) : Error :=
  .undefinedStep (Text.trim keyword) text

/-- Stops with a failed check. -/
def fail {α : Type} (reason : Assertion) : Except Error α :=
  .error (.assertion reason)

end Error

end ServiceHealth

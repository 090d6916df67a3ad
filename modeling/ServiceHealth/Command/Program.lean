import ServiceHealth.Command.Line

/-!
# The program

The program reads its command line, opens its log file, and does what the command
asks for.  It ends with status 0 if the command succeeds, 1 if it fails or an error
stops it, and 2 if the command line is not valid.
-/

namespace ServiceHealth

/-- How the program ends. -/
inductive Ending where
  /-- The command was carried out, or a text was asked for. -/
  | finished (success : Bool)
  | stopped (error : Error)
  | misused

namespace Ending

/-- The exit status. -/
def status : Ending → Nat
  | .finished true => 0
  | .finished false => 1
  | .stopped _ => 1
  | .misused => 2

/-- What is written on the error output. -/
def errorLines : Ending → List String
  | .finished _ => []
  | .stopped error => ["Error: " ++ error.message]
  | .misused => ["error: the command line is not valid", "", Command.programUsage]

/-- How the program ends after a command. -/
def ofResult : Except Error Bool → Ending
  | .error error => .stopped error
  | .ok success => .finished success

end Ending

/-- The paths that a target makes the program look at. -/
def Target.paths (target : Target) (environment : Environment) : List String :=
  (target.configFile.or environment.configPath?).toList

/-- The paths that a command looks at, besides what is in directories among them. -/
def Command.pathsRead (command : Command) (environment : Environment) : List String :=
  match command with
  | .run paths target => target.paths environment ++ paths
  | .ping target => target.paths environment
  | .steps => []

/-- The files after the log file was opened, if one is asked for. -/
def Invocation.openLog (invocation : Invocation) (files : FileSystem) : Except Error FileSystem :=
  match invocation.logFile with
  | none => .ok files
  | some path => (files.openToAppend path).mapError (Error.fileWrite path)

/-- Carries out a command line that is valid. -/
def Invocation.perform (invocation : Invocation) (files : FileSystem) (environment : Environment) :
    Interaction Ending :=
  match invocation.openLog files with
  | .error error => return .stopped error
  | .ok files => do
    let result ← invocation.command.perform files environment invocation.verbose
    return Ending.ofResult result

/-- The program with its arguments. -/
def program (files : FileSystem) (environment : Environment) (arguments : List String) :
    Interaction Ending :=
  match Invocation.read arguments with
  | .error (.information text) => do
    Interaction.say (.information text)
    return .finished true
  | .error .misuse => return .misused
  | .ok invocation => invocation.perform files environment

end ServiceHealth

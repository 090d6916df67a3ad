import ServiceHealth.Command.Basic
import ServiceHealth.Command.Help

/-!
# The command line

The arguments of the program are switches and words.  The first word is the name
of a command; switches may stand before it and after it, and the words after it are
its paths.  A switch may be given once in either place.  After two dashes alone
everything is a word.
-/

namespace ServiceHealth.Command

/-- Where in the command line an argument stands: before the command's name, or after it. -/
inductive Level where
  | program
  | run
  | ping
  | steps
  deriving DecidableEq, Repr

/-- The switches. -/
inductive Switch where
  | verbose
  | help
  | version
  | logFile
  | port
  | host
  | configFile
  deriving DecidableEq, Repr

/-- The switch is followed by a value. -/
def Switch.takesValue : Switch → Bool
  | .verbose | .help | .version => false
  | .logFile | .port | .host | .configFile => true

/-- The switch with a long name. -/
def Switch.ofName? : (name : String) → Option Switch
  | "verbose" => some .verbose
  | "help" => some .help
  | "version" => some .version
  | "log-file" => some .logFile
  | "port" => some .port
  | "host" => some .host
  | "config" => some .configFile
  | _ => none

/-- The switch with a short name. -/
def Switch.ofLetter? : (letter : Char) → Option Switch
  | 'v' => some .verbose
  | 'h' => some .help
  | 'V' => some .version
  | 'p' => some .port
  | 'c' => some .configFile
  | _ => none

/-- The command with a name. -/
def Level.ofName? : (name : String) → Option Level
  | "run" => some .run
  | "ping" => some .ping
  | "steps" => some .steps
  | _ => none

/-- The help text for a part of the command line. -/
def Level.help : Level → String
  | .program => programHelp
  | .run => runHelp
  | .ping => pingHelp
  | .steps => stepsHelp

/-- The switch may stand here. -/
def Level.allows (level : Level) : Switch → Bool
  | .verbose | .help | .logFile => true
  | .version => level == .program
  | .port | .host | .configFile => level == .run || level == .ping

/-- What a part of the command line gives. -/
structure Given where
  verbose : Bool := false
  logFile : Option String := none
  port : Option Settings.Port := none
  host : Option String := none
  configFile : Option String := none
  paths : List String := []
  deriving DecidableEq, Repr

/-- Why a command line does not lead to a command. -/
inductive Stop where
  /-- It asks for a text. -/
  | information (text : String)
  /-- It is not valid. -/
  | misuse
  deriving DecidableEq, Repr

/-- The port that the value of a switch writes, with an optional sign. -/
def portOf? (value : String) : Option Settings.Port :=
  match value.toList with
  | '-' :: digits =>
    (Text.numeral? digits).bind fun n => if n = 0 then Settings.Port.ofNat? n else none
  | cs => Settings.Port.ofNumeral? cs

namespace Given

/-- Adds a switch without a value. -/
def addFlag (given : Given) (level : Level) (switch : Switch) : Except Stop Given :=
  match switch with
  | .verbose => if given.verbose then .error .misuse else .ok { given with verbose := true }
  | .version => .error (.information versionText)
  | _ => .error (.information level.help)

/-- Adds a switch with a value. -/
def addValue (given : Given) (switch : Switch) (value : String) : Except Stop Given :=
  match switch with
  | .logFile =>
    if given.logFile.isSome || value.isEmpty then .error .misuse
    else .ok { given with logFile := some value }
  | .configFile =>
    if given.configFile.isSome || value.isEmpty then .error .misuse
    else .ok { given with configFile := some value }
  | .host =>
    if given.host.isSome then .error .misuse else .ok { given with host := some value }
  | .port =>
    match given.port, portOf? value with
    | none, some port => .ok { given with port := some port }
    | _, _ => .error .misuse
  | _ => .error .misuse

/-- Adds a word after the command's name: only a run takes words, and none is empty. -/
def addWord (given : Given) (level : Level) (word : String) : Except Stop Given :=
  if level = .run ∧ word ≠ "" then .ok { given with paths := given.paths ++ [word] }
  else .error .misuse

/-- Adds words one after another. -/
def addWords (given : Given) (level : Level) (words : List String) : Except Stop Given :=
  words.foldlM (fun given word => given.addWord level word) given

end Given

/-- Reads the letters after one dash; a switch that still needs its value is left. -/
def readLetters (level : Level) (given : Given) : List Char → Except Stop (Given × Option Switch)
  | [] => .ok (given, none)
  | letter :: letters =>
    match (Switch.ofLetter? letter).filter level.allows with
    | none => .error .misuse
    | some switch =>
      if switch.takesValue then
        match letters with
        | [] => .ok (given, some switch)
        | '=' :: value =>
          (given.addValue switch (String.ofList value)).map fun given => (given, none)
        | value =>
          (given.addValue switch (String.ofList value)).map fun given => (given, none)
      else
        match given.addFlag level switch with
        | .error stop => .error stop
        | .ok given => readLetters level given letters

/-- Reads the name after two dashes; a switch that still needs its value is left. -/
def readName (level : Level) (given : Given) (cs : List Char) :
    Except Stop (Given × Option Switch) :=
  let name := cs.takeWhile (· ≠ '=')
  match (Switch.ofName? (String.ofList name)).filter level.allows, cs.drop name.length with
  | none, _ => .error .misuse
  | some switch, [] =>
    if switch.takesValue then .ok (given, some switch)
    else (given.addFlag level switch).map fun given => (given, none)
  | some switch, _ :: value =>
    (given.addValue switch (String.ofList value)).map fun given => (given, none)

/-- The argument is not a word. -/
def isSwitch : (argument : List Char) → Bool
  | '-' :: _ :: _ => true
  | _ => false

/-- Reads one part of the command line while a switch may wait for its value: what
it gives, and the arguments from the command's name on. -/
def readPart (level : Level) (given : Given) (waiting : Option Switch) :
    (arguments : List String) → Except Stop (Given × List String)
  | [] => if waiting.isSome then .error .misuse else .ok (given, [])
  | argument :: arguments =>
    match waiting with
    | some switch =>
      if isSwitch argument.toList then .error .misuse
      else
        match given.addValue switch argument with
        | .error stop => .error stop
        | .ok given => readPart level given none arguments
    | none =>
      match argument.toList with
      | ['-', '-'] => (given.addWords level arguments).map fun given => (given, [])
      | '-' :: '-' :: name =>
        match readName level given name with
        | .error stop => .error stop
        | .ok (given, waiting) => readPart level given waiting arguments
      | '-' :: letter :: letters =>
        match readLetters level given (letter :: letters) with
        | .error stop => .error stop
        | .ok (given, waiting) => readPart level given waiting arguments
      | _ =>
        if level = .program then .ok (given, argument :: arguments)
        else
          match given.addWord level argument with
          | .error stop => .error stop
          | .ok given => readPart level given none arguments

/-- The command that a part of the command line gives; a run needs a path. -/
def Given.command (given : Given) (level : Level) : Except Stop Command :=
  let target : Target := ⟨given.port, given.host, given.configFile⟩
  match level with
  | .program => .error .misuse
  | .run => if given.paths.isEmpty then .error .misuse else .ok (.run given.paths target)
  | .ping => .ok (.ping target)
  | .steps => .ok .steps

/-- The text that the command `help` prints. -/
def helpOn : (words : List String) → Stop
  | [] => .information programHelp
  | ["help"] => .information helpHelp
  | [name] =>
    match Level.ofName? name with
    | some level => .information level.help
    | none => .misuse
  | _ => .misuse

end ServiceHealth.Command

namespace ServiceHealth

/-- What a valid command line asks for. -/
structure Invocation where
  verbose : Bool
  logFile : Option String
  command : Command
  deriving DecidableEq, Repr

/-- Reads the arguments of the program. -/
def Invocation.read (arguments : List String) : Except Command.Stop Invocation := do
  let (before, rest) ← Command.readPart .program {} none arguments
  match rest with
  | [] => .error .misuse
  | "help" :: words => .error (Command.helpOn words)
  | name :: rest =>
    match Command.Level.ofName? name with
    | none => .error .misuse
    | some level =>
      let (own, _) ← Command.readPart level {} none rest
      let command ← own.command level
      return ⟨before.verbose || own.verbose, own.logFile.or before.logFile, command⟩

end ServiceHealth

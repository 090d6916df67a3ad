import ServiceHealth.Files.Basic
import ServiceHealth.Settings.File

/-!
# The settings of a command

Settings come from a configuration file, the one that is asked for or else the
user's own if there is one; then from the environment; then from the command line.
What comes later wins.
-/

namespace ServiceHealth

/-- The part of the environment that a command looks at. -/
structure Environment where
  /-- The user's home directory. -/
  home : Option String
  /-- The directory of the user's configuration files, as the environment gives it. -/
  configHome : Option String
  /-- The port of the service; a value that is not a text is ignored. -/
  serverPort : Option (List UInt8)

namespace Environment

/-- The directory of the user's configuration files.  Only a user with a home directory has
one, also where the environment gives another directory for it. -/
def configDirectory? (environment : Environment) : Option String :=
  environment.home.map fun home =>
    (environment.configHome.filter Path.isAbsolute).getD (Path.join home ".config")

/-- The path of the user's own configuration file. -/
def configPath? (environment : Environment) : Option String :=
  environment.configDirectory?.map fun directory =>
    Path.join (Path.join directory "health-e2e") "config.toml"

/-- The port of the service, as a text. -/
def portText? (environment : Environment) : Option String :=
  environment.serverPort.bind Text.Utf8.decode?

end Environment

/-- What a command line says about the service. -/
structure Target where
  port : Option Settings.Port
  host : Option String
  configFile : Option String
  deriving DecidableEq, Repr

namespace Settings

/-- The settings in a file. -/
def ofFile (files : FileSystem) (path : String) : Except Error Settings :=
  match files.readText path with
  | .error error => .error error
  | .ok text => ofText text

/-- The settings in the configuration file. -/
def ofFiles (files : FileSystem) (environment : Environment) (configFile : Option String) :
    Except Error Settings :=
  match configFile with
  | some path => ofFile files path
  | none =>
    match environment.configPath?.filter files.isPresent with
    | some path => ofFile files path
    | none => .ok {}

/-- The settings with the port of the environment. -/
def withEnvironment (settings : Settings) (environment : Environment) : Except Error Settings :=
  match environment.portText? with
  | none => .ok settings
  | some raw => (Port.ofRaw raw).map settings.withPort

/-- The settings with what the command line says. -/
def withTarget (settings : Settings) (target : Target) : Settings :=
  let settings :=
    match target.host with
    | some host => settings.withHost host
    | none => settings
  match target.port with
  | some port => settings.withPort port
  | none => settings

/-- The settings of a command. -/
def resolve (files : FileSystem) (environment : Environment) (target : Target) :
    Except Error Settings := do
  let settings ← ofFiles files environment target.configFile
  let settings ← settings.withEnvironment environment
  return settings.withTarget target

end Settings

end ServiceHealth

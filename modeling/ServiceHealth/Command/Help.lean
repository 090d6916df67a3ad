/-!
# Help texts

What the program prints when it is asked what it can do.
-/

namespace ServiceHealth.Command

/-- The name and the version of the program. -/
def versionText : String :=
  "health-e2e 0.1.0"

/-- How the program is called. -/
def programUsage : String :=
  "Usage: health-e2e [OPTIONS] <COMMAND>"

/-- What the program can do. -/
def programHelp : String :=
  "\n".intercalate
    ["End-to-end BDD checks for a health-check service",
      "",
      programUsage,
      "",
      "Commands:",
      "  run    Run feature files against the service",
      "  ping   Check that the service answers its liveness endpoint",
      "  steps  List every registered step pattern",
      "  help   Print this message or the help of the given subcommand(s)",
      "",
      "Options:",
      "  -v, --verbose              Print every step and enable debug logging",
      "      --log-file <LOG_FILE>  Also write logs to this file",
      "  -h, --help                 Print help",
      "  -V, --version              Print version"]

/-- The options of the commands that talk to the service. -/
def targetOptions : List String :=
  ["Options:",
    "  -p, --port <PORT>          Port of the service (overrides SERVER_PORT and the config file)",
    "  -v, --verbose              Print every step and enable debug logging",
    "      --host <HOST>          Host of the service (default: localhost)",
    "      --log-file <LOG_FILE>  Also write logs to this file",
    "  -c, --config <CONFIG>      Path to a TOML configuration file",
    "  -h, --help                 Print help"]

/-- What the command `run` does. -/
def runHelp : String :=
  "\n".intercalate
    (["Run feature files against the service",
      "",
      "Usage: health-e2e run [OPTIONS] <PATHS>...",
      "",
      "Arguments:",
      "  <PATHS>...  Feature files, or directories containing *.feature files",
      ""] ++ targetOptions)

/-- What the command `ping` does. -/
def pingHelp : String :=
  "\n".intercalate
    (["Check that the service answers its liveness endpoint",
      "",
      "Usage: health-e2e ping [OPTIONS]",
      ""] ++ targetOptions)

/-- What the command `steps` does. -/
def stepsHelp : String :=
  "\n".intercalate
    ["List every registered step pattern",
      "",
      "Usage: health-e2e steps [OPTIONS]",
      "",
      "Options:",
      "  -v, --verbose              Print every step and enable debug logging",
      "      --log-file <LOG_FILE>  Also write logs to this file",
      "  -h, --help                 Print help"]

/-- What the command `help` does. -/
def helpHelp : String :=
  "\n".intercalate
    ["Print this message or the help of the given subcommand(s)",
      "",
      "Usage: health-e2e help [COMMAND]...",
      "",
      "Arguments:",
      "  [COMMAND]...  Print help for the subcommand(s)"]

end ServiceHealth.Command

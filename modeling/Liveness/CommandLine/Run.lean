import Liveness.CommandLine.Arguments
import Liveness.Config.Load
import Liveness.Config.Print
import Liveness.Daemon
import Liveness.LogFilter.Directive
import Liveness.Text.Unseen

/-! # What the command line answers -/

namespace Liveness.CommandLine

/-- What the program finds around it. -/
structure Surroundings where
  /-- The path in the environment, if it is set. -/
  environment : Option String
  /-- The place of the user's own configuration. -/
  standard : Option String
  read : String → FileText

/-- What the services are to do once they are started. -/
structure Start where
  config : Config
  /-- A simulation, and how many attempts its connector refuses. -/
  simulation : Option (SimulationPlan × Nat)

inductive Outcome where
  | printed (text : String)
  /-- The arguments make no request. -/
  | misuse
  | badConfig (e : ConfigError)
  | badLogLevel (level : String)
  /-- Reading the filter for the log level breaks down. -/
  | brokenLogLevel
  | start (s : Start)

def versionText : String := "devlived 0.1.0\n"

def helpText : String :=
  "devlive daemon - device liveness tracking\n\nUsage: devlived [COMMAND]\n\nCommands:\n" ++
  "  run       Run the registry, sweeper and stats reporter\n" ++
  "  simulate  Run with synthetic devices and a synthetic client connection\n" ++
  "  config    Print the effective configuration as TOML\n" ++
  "  help      Print this message or the help of the given subcommand(s)\n\nOptions:\n" ++
  "  -h, --help     Print help\n  -V, --version  Print version\n"

/-- The configuration as a file: where it comes from, as a comment, and its document. -/
def configText (source : Option ConfigSource) (document : String) : String :=
  (match source with
    | some s => s!"# {s.path}\n"
    | none => "# built-in defaults\n") ++ document

variable (env : Surroundings)

def source (explicit : Option String) : Option ConfigSource :=
  ConfigSource.select explicit env.environment env.standard

/-- Starts the services when the configuration loads and its log level is a filter. -/
def begin (explicit : Option String) (simulation : Option (SimulationPlan × Nat)) : Outcome :=
  match Config.load env.read (source env explicit) with
  | .error e => .badConfig e
  | .ok config =>
    match LogFilter.check (LogFilter.forLevel config.logLevel) with
    | .ok () => .start { config, simulation }
    | .error .refused => .badLogLevel config.logLevel
    | .error .broken => .brokenLogLevel

def showConfig (explicit : Option String) : Outcome :=
  match Config.load env.read (source env explicit) with
  | .error e => .badConfig e
  | .ok config =>
    match config.toToml with
    | .error e => .badConfig e
    | .ok document => .printed (configText (source env explicit) document)

def run (args : List String) : Outcome :=
  match parse? args with
  | none => .misuse
  | some .version => .printed versionText
  | some .help => .printed helpText
  | some (.run config) => begin env config none
  | some (.simulate config plan refusals) => begin env config (some (plan, refusals))
  | some (.showConfig config) => showConfig env config

namespace Outcome

def code : Outcome → Nat
  | .printed _ | .start _ => 0
  | .misuse => 2
  | .badConfig _ | .badLogLevel _ => 1
  | .brokenLogLevel => 101

def stdout : Outcome → String
  | .printed text => text
  | _ => ""

/-- What the program reports of an error; causes that the system words are left out. -/
def stderr : Outcome → String
  | .misuse => "error: unexpected arguments\n\nUsage: devlived [COMMAND]\n\nFor more information, try '--help'.\n"
  | .badConfig e =>
    "Error: Failed to load configuration\n" ++
      match e.message? with
      | some m => s!"\nCaused by:\n    {m}\n"
      | none => ""
  | .badLogLevel level =>
    s!"Error: Invalid log_level {quoted level}\n\nCaused by:\n    invalid filter directive\n"
  | .brokenLogLevel => "a filter directive was cut within a character\n"
  | _ => ""

end Outcome

end Liveness.CommandLine

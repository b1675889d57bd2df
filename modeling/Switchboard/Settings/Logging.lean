import Switchboard.Settings.Variables
import Switchboard.Text.Quoted
/-!
Settings of logs: how much is written, in what form and where to.
-/

namespace Switchboard.Settings

/-- How grave an entry must be to be written. -/
inductive LogLevel where
  | trace | debug | info | warn | error
  deriving DecidableEq, Repr

/-- The form of an entry. -/
inductive LogFormat where
  | json | plain | pretty | compact
  deriving DecidableEq, Repr

/-- Where entries go. -/
inductive LogTarget where
  | stdout
  | stderr
  | file (path : String)
  deriving DecidableEq, Repr

/-- The settings of a log. -/
structure Logging where
  level : LogLevel
  format : LogFormat
  target : LogTarget
  /-- Says whether entries name the module that they come from. -/
  namesModules : Bool
  isColored : Bool
  /-- A filter in the place of the level. -/
  filter : Option String
  deriving DecidableEq, Repr

/-- The name of a level. -/
def LogLevel.name : LogLevel → String
  | .trace => "trace"
  | .debug => "debug"
  | .info => "info"
  | .warn => "warn"
  | .error => "error"

/-- Reads the name of a level. -/
def LogLevel.read? (text : String) : Option LogLevel :=
  [("trace", .trace), ("debug", .debug), ("info", .info), ("warn", .warn), ("warning", .warn),
    ("error", .error)].lookup (Text.lower (Text.trim text))

/-- The name of a form. -/
def LogFormat.name : LogFormat → String
  | .json => "Json"
  | .plain => "Plain"
  | .pretty => "Pretty"
  | .compact => "Compact"

/-- Reads the name of a form. -/
def LogFormat.read? (text : String) : Option LogFormat :=
  [("json", .json), ("plain", .plain), ("pretty", .pretty), ("compact", .compact)].lookup
    (Text.lower (Text.trim text))

/-- A description of a place for entries. -/
def LogTarget.text : LogTarget → String
  | .stdout => "Stdout"
  | .stderr => "Stderr"
  | .file path => "File(" ++ Text.Quoted.quote path ++ ")"

namespace Logging

/-- The settings of a log that nobody set up. -/
def standard : Logging :=
  { level := .info, format := .json, target := .stdout, namesModules := true
    isColored := false, filter := none }

/-- The settings of a log that variables say something about. -/
def ofVariables (given : Variables) : Logging :=
  { standard with
    level := ((given.get? "CONDUIT_LOG_LEVEL").bind LogLevel.read?).getD standard.level
    format := ((given.get? "CONDUIT_LOG_FORMAT").bind LogFormat.read?).getD standard.format }

end Logging

end Switchboard.Settings

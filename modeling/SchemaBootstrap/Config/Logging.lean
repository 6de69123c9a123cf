import SchemaBootstrap.Config.Validation

/-! # Setting up the log

The log is set up with a level and a format, both named in any case
(`LoggingSettings.setUp`). A level that is not known is reported before a format. A log
that is set up is opened (`LoggingSettings.openWith`). Its surroundings may refuse to have it
installed; a directory in which no file can be opened for it is not refused, but breaks the
program off.
-/

namespace SchemaBootstrap

/-- How much is logged. -/
inductive LogLevel where
  | trace
  | debug
  | info
  | warn
  | error
  deriving DecidableEq, Repr

/-- The form of the log. -/
inductive LogFormat where
  | json
  | pretty
  deriving DecidableEq, Repr

/-- Why the log cannot be set up. -/
inductive LogFault where
  | level (name : String)
  | format (name : String)
  /-- The log cannot be installed. -/
  | closed (detail : String)
  deriving DecidableEq, Repr

/-- The text of a fault. -/
def LogFault.message : LogFault → String
  | level name => "Invalid log level: " ++ name
  | format name => "Invalid log format: " ++ name
  | closed _ => "Failed to install tracing subscriber"

/-- The level with a name in lower case. -/
def LogLevel.named? : String → Option LogLevel
  | "trace" => some trace
  | "debug" => some debug
  | "info" => some info
  | "warn" => some warn
  | "error" => some error
  | _ => none

/-- The format with a name in lower case. -/
def LogFormat.named? : String → Option LogFormat
  | "json" => some json
  | "pretty" => some pretty
  | _ => none

/-- The level and the format that settings name. -/
def LoggingSettings.setUp (settings : LoggingSettings) : Except LogFault (LogLevel × LogFormat) :=
  match LogLevel.named? (Text.lower settings.level) with
  | none => .error (.level settings.level)
  | some level =>
    match LogFormat.named? (Text.lower settings.format) with
    | none => .error (.format settings.format)
    | some format => .ok (level, format)

/-- What the opening of a log depends on. -/
structure LogOpener where
  /-- Whether the log file of the day can be opened in a directory, which is made if need be. -/
  keeps : String → Bool
  /-- Installs a log with a level, a format and a directory, or tells why it cannot be. -/
  install : LogLevel → LogFormat → Option String → Except String Unit

/-- How the opening of a log ends. -/
inductive LogOpening where
  | opened
  | refused (fault : LogFault)
  /-- The log file cannot be opened, which breaks the program off. -/
  | broken
  deriving DecidableEq, Repr

/-- Opens the file of a log that is to have one, and then installs the log. -/
def LogOpener.opening (opener : LogOpener) (level : LogLevel) (format : LogFormat)
    (directory : Option String) : LogOpening :=
  if directory.all opener.keeps then
    match opener.install level format directory with
    | .error detail => .refused (.closed detail)
    | .ok () => .opened
  else .broken

/-- Sets up a log with settings and opens it. -/
def LoggingSettings.openWith (opener : LogOpener) (settings : LoggingSettings) : LogOpening :=
  match settings.setUp with
  | .error fault => .refused fault
  | .ok (level, format) => opener.opening level format settings.directory

end SchemaBootstrap

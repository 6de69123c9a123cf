import SchemaBootstrap.Config.Settings
import SchemaBootstrap.Decoding.Fault
import SchemaBootstrap.Text.Case

/-! # Checking settings

Settings are checked one after the other, and the first that cannot be worked with
is reported (`Settings.validate`).
-/

namespace SchemaBootstrap

/-- Why settings cannot be worked with. -/
inductive SettingError where
  | emptyUri
  | invalidUri (uri : String)
  | emptyDatabaseName
  | invalidDatabaseName (name : String)
  | zeroTimeout (setting : String)
  | invalidBackoff (initial maximum : UInt64)
  | invalidLogLevel (level : String)
  | invalidLogFormat (format : String)
  deriving DecidableEq, Repr

namespace SettingError

/-- The text of an error. -/
def message : SettingError → String
  | emptyUri => "MongoDB URI cannot be empty"
  | invalidUri uri =>
    "Invalid MongoDB URI: " ++ uri ++ ". Must start with mongodb:// or mongodb+srv://"
  | emptyDatabaseName => "Database name cannot be empty"
  | invalidDatabaseName name =>
    "Invalid database name: " ++ name
      ++ ". Must not contain '/', '\\', '.', '\"', '$' or spaces"
  | zeroTimeout setting => "Invalid " ++ setting ++ ": must be greater than 0"
  | invalidBackoff initial maximum =>
    "Invalid backoff configuration: initial_backoff_ms (" ++ Nat.repr initial.toNat
      ++ ") must not exceed max_backoff_ms (" ++ Nat.repr maximum.toNat ++ ")"
  | invalidLogLevel level =>
    "Invalid log level: " ++ level ++ ". Must be one of: trace, debug, info, warn, error"
  | invalidLogFormat format =>
    "Invalid log format: " ++ format ++ ". Must be one of: json, pretty"

end SettingError

/-- Refuses unless a condition holds. -/
def demand (condition : Bool) (error : ε) : Except ε Unit :=
  if condition then .ok () else .error error

namespace ServerSettings

/-- What the address of a server may start with. -/
def schemes : List String :=
  ["mongodb://", "mongodb+srv://"]

/-- Whether a character cannot be part of a database name. -/
def isForbidden (c : Char) : Bool :=
  ['/', '\\', '.', '"', '$', ' ', '\x00'].contains c

/-- Accepts an address with a known scheme, a database name that a server allows, and
timeouts above zero. -/
def validate (settings : ServerSettings) : Except SettingError Unit := do
  demand (!Text.allBlank settings.uri) .emptyUri
  demand (schemes.any (Text.startsWith settings.uri)) (.invalidUri settings.uri)
  demand (!settings.database.isEmpty) .emptyDatabaseName
  demand (!settings.database.toList.any isForbidden) (.invalidDatabaseName settings.database)
  demand (settings.connectTimeout != 0) (.zeroTimeout "connect_timeout_ms")
  demand (settings.selectionTimeout != 0) (.zeroTimeout "server_selection_timeout_ms")

end ServerSettings

namespace RetrySettings

/-- Accepts a first interval above zero and not above the greatest one. -/
def validate (settings : RetrySettings) : Except SettingError Unit := do
  demand (settings.initialBackoff != 0) (.zeroTimeout "initial_backoff_ms")
  demand (settings.initialBackoff.toNat ≤ settings.maximumBackoff.toNat)
    (.invalidBackoff settings.initialBackoff settings.maximumBackoff)

end RetrySettings

namespace LoggingSettings

/-- The levels of a log, in lower case. -/
def levels : List String :=
  ["trace", "debug", "info", "warn", "error"]

/-- The forms of a log, in lower case. -/
def formats : List String :=
  ["json", "pretty"]

/-- Accepts a level in any case, and a format in lower case. -/
def validate (settings : LoggingSettings) : Except SettingError Unit := do
  demand (levels.contains (Text.lower settings.level)) (.invalidLogLevel settings.level)
  demand (formats.contains settings.format) (.invalidLogFormat settings.format)

end LoggingSettings

namespace Settings

/-- Accepts settings that can be worked with. -/
def validate (settings : Settings) : Except SettingError Unit := do
  settings.server.validate
  settings.retry.validate
  settings.logging.validate

end Settings

end SchemaBootstrap

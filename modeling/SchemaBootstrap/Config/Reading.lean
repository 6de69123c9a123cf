import SchemaBootstrap.Config.Settings
import SchemaBootstrap.Json.Decoding

/-! # Reading and writing settings

Settings are read from any format that has texts, numbers and records
(`Settings.read`); what is absent keeps its default. As JSON they are written in
full, one section after the other (`Settings.toJson`).
-/

namespace SchemaBootstrap

/-- How the parts of settings are read from the values of a format. -/
structure SettingReader (β : Type) where
  text : β → Except DecodeFault String
  word : β → Except DecodeFault UInt64
  directory : β → Except DecodeFault (Option String)
  record : {α : Type} → (name : String) → (count : Nat) → Fields β α → β → Except DecodeFault α

/-- Settings are read from JSON values. -/
def SettingReader.json : SettingReader Json where
  text := Json.readText
  word := Json.readWord
  directory := Json.readOption Json.readDirectory
  record := Json.readRecord

namespace ServerSettings

/-- Reads the settings of the server. -/
def read (reader : SettingReader β) : β → Except DecodeFault ServerSettings :=
  let default : ServerSettings := {}
  reader.record "MongoConfig" 5
    (mk <$> Fields.defaulted "uri" default.uri reader.text
      <*> Fields.defaulted "database" default.database reader.text
      <*> Fields.defaulted "app_name" default.appName reader.text
      <*> Fields.defaulted "connect_timeout_ms" default.connectTimeout reader.word
      <*> Fields.defaulted "server_selection_timeout_ms" default.selectionTimeout reader.word)

/-- The JSON form of the settings of the server. -/
def toJson (settings : ServerSettings) : Json :=
  .object
    [("uri", .string settings.uri),
      ("database", .string settings.database),
      ("app_name", .string settings.appName),
      ("connect_timeout_ms", .integer (settings.connectTimeout.toNat : Int)),
      ("server_selection_timeout_ms", .integer (settings.selectionTimeout.toNat : Int))]

end ServerSettings

namespace RetrySettings

/-- Reads the settings for waiting. -/
def read (reader : SettingReader β) : β → Except DecodeFault RetrySettings :=
  let default : RetrySettings := {}
  reader.record "RetryConfig" 3
    (mk <$> Fields.defaulted "initial_backoff_ms" default.initialBackoff reader.word
      <*> Fields.defaulted "max_backoff_ms" default.maximumBackoff reader.word
      <*> Fields.defaulted "max_elapsed_ms" default.maximumElapsed reader.word)

/-- The JSON form of the settings for waiting. -/
def toJson (settings : RetrySettings) : Json :=
  .object
    [("initial_backoff_ms", .integer (settings.initialBackoff.toNat : Int)),
      ("max_backoff_ms", .integer (settings.maximumBackoff.toNat : Int)),
      ("max_elapsed_ms", .integer (settings.maximumElapsed.toNat : Int))]

end RetrySettings

namespace LoggingSettings

/-- Reads the settings of the log. -/
def read (reader : SettingReader β) : β → Except DecodeFault LoggingSettings :=
  let default : LoggingSettings := {}
  reader.record "LoggingConfig" 3
    (mk <$> Fields.defaulted "level" default.level reader.text
      <*> Fields.defaulted "format" default.format reader.text
      <*> Fields.defaulted "log_dir" default.directory reader.directory)

/-- The JSON form of the settings of the log. -/
def toJson (settings : LoggingSettings) : Json :=
  .object
    [("level", .string settings.level),
      ("format", .string settings.format),
      ("log_dir", Json.option .string settings.directory)]

end LoggingSettings

namespace Settings

/-- Reads the settings of a run. -/
def read (reader : SettingReader β) : β → Except DecodeFault Settings :=
  reader.record "Config" 3
    (mk <$> Fields.defaulted "mongodb" {} (ServerSettings.read reader)
      <*> Fields.defaulted "retry" {} (RetrySettings.read reader)
      <*> Fields.defaulted "logging" {} (LoggingSettings.read reader))

/-- The JSON form of the settings of a run. -/
def toJson (settings : Settings) : Json :=
  .object
    [("mongodb", settings.server.toJson),
      ("retry", settings.retry.toJson),
      ("logging", settings.logging.toJson)]

end Settings

end SchemaBootstrap

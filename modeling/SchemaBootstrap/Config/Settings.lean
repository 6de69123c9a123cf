import SchemaBootstrap.Schema.Definition

/-! # Settings

What a run is configured with: the server and database, the policy for waiting
until the server answers, and the log. Every setting has a default.
-/

namespace SchemaBootstrap

/-- How the server is reached. -/
structure ServerSettings where
  uri : String := "mongodb://localhost:27017"
  database : String := SchemaDefinition.defaultDatabase
  appName : String := "testbench-db"
  connectTimeout : UInt64 := 5000
  selectionTimeout : UInt64 := 5000
  deriving DecidableEq, Repr

/-- How long to wait between two attempts and altogether, in milliseconds. -/
structure RetrySettings where
  initialBackoff : UInt64 := 500
  maximumBackoff : UInt64 := 10000
  maximumElapsed : UInt64 := 120000
  deriving DecidableEq, Repr

/-- What is logged, in which form, and to which directory besides the error output. -/
structure LoggingSettings where
  level : String := "info"
  format : String := "pretty"
  directory : Option String := none
  deriving DecidableEq, Repr

/-- All settings of a run. -/
structure Settings where
  server : ServerSettings := {}
  retry : RetrySettings := {}
  logging : LoggingSettings := {}
  deriving DecidableEq, Repr

end SchemaBootstrap

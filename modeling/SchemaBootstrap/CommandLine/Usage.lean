import SchemaBootstrap.CommandLine.Arguments
import SchemaBootstrap.Text.Pieces

/-! # Usage of the program

What is shown for arguments that do not ask for a command: the help and the version
as output, anything else as an error.
-/

namespace SchemaBootstrap

/-- The name of the program with its version. -/
def versionLine : String :=
  "testbench-db 0.1.0"

/-- The lines of the help. -/
def helpLines : List String :=
  ["Bootstrap the ML evaluation testbench MongoDB schema",
    "",
    "Usage: testbench-db [OPTIONS] <COMMAND>",
    "",
    "Commands:",
    "  init    Create the collections and indexes (safe to re-run)",
    "  verify  Check the live database against the schema",
    "  schema  Print the schema without connecting to the database",
    "  help    Print this message or the help of the given subcommand(s)",
    "",
    "Options:",
    "  -j, --json             Output in JSON format",
    "  -c, --config <CONFIG>  Additional YAML config file, merged before environment overrides",
    "  -h, --help             Print help",
    "  -V, --version          Print version"]

namespace UsageError

/-- What is printed as the output of the program. -/
def output : UsageError → String
  | displayHelp => Text.joined "\n" helpLines ++ "\n"
  | displayVersion => versionLine ++ "\n"
  | _ => ""

/-- The lines that report what is wrong with the arguments. -/
def report : UsageError → List String
  | displayHelp => []
  | displayVersion => []
  | displayHelpOnMissingCommand => helpLines
  | missingCommand => ["error: a command is required"]
  | invalidCommand => ["error: there is no such command"]
  | unknownArgument => ["error: an argument was not expected"]
  | argumentConflict => ["error: an option is given twice"]
  | tooManyValues => ["error: a value is given to an option that takes none"]
  | invalidValue => ["error: the value of an option is missing or empty"]

end UsageError

end SchemaBootstrap

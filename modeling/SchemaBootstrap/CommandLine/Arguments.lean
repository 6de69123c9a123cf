import SchemaBootstrap.Text.Pieces

/-! # Arguments of the command line

The arguments are read from left to right (`Invocation.parse`). Options may stand
before or behind the name of the command; those that every command has may stand in
both places, and then the one behind the name counts. The first argument that does
not fit decides the error. An option that waits for its value takes the next argument
that is no option, and is settled when a further option is read or the arguments end.
-/

namespace SchemaBootstrap

/-- Why arguments are not accepted, or what is shown instead of running a command. -/
inductive UsageError where
  | displayHelp
  | displayVersion
  | displayHelpOnMissingCommand
  | missingCommand
  | invalidCommand
  | unknownArgument
  | argumentConflict
  | tooManyValues
  | invalidValue
  deriving DecidableEq, Repr

/-- The exit code of the program. -/
def UsageError.exitCode : UsageError → Nat
  | displayHelp => 0
  | displayVersion => 0
  | _ => 2

/-- A command with its own options. -/
inductive Command where
  | init (dryRun noWait : Bool)
  | verify (noWait : Bool)
  | schema
  deriving DecidableEq, Repr

/-- What the arguments ask for. -/
structure Invocation where
  command : Command
  json : Bool
  config : Option String
  deriving DecidableEq, Repr

namespace Arguments

/-- The part of the arguments that is read: before the name of a command, or behind it. -/
inductive Level where
  | top
  | init
  | verify
  | schema
  deriving DecidableEq, Repr

/-- An option without a value. -/
inductive Flag where
  | json
  | dryRun
  | noWait
  | help
  | version
  deriving DecidableEq, Repr

/-- An option: a flag, or the one that names a file. -/
inductive Switch where
  | flag (flag : Flag)
  | config
  deriving DecidableEq, Repr

/-- The option with a long name. -/
def long? (level : Level) (name : String) : Option Switch :=
  match level, name with
  | _, "json" => some (.flag .json)
  | _, "config" => some .config
  | _, "help" => some (.flag .help)
  | .top, "version" => some (.flag .version)
  | .init, "dry-run" => some (.flag .dryRun)
  | .init, "no-wait" => some (.flag .noWait)
  | .verify, "no-wait" => some (.flag .noWait)
  | _, _ => none

/-- The option with a short name. -/
def short? (level : Level) (name : Char) : Option Switch :=
  match level, name with
  | _, 'j' => some (.flag .json)
  | _, 'c' => some .config
  | _, 'h' => some (.flag .help)
  | .top, 'V' => some (.flag .version)
  | _, _ => none

/-- The command with a name. -/
def command? (name : String) : Option Level :=
  match name with
  | "init" => some .init
  | "verify" => some .verify
  | "schema" => some .schema
  | _ => none

/-- The option for a file that has been read but is not settled. -/
inductive Pending where
  | nothing
  | waiting
  | value (path : String)
  deriving DecidableEq, Repr

/-- The options read at one level. -/
structure Given where
  json : Bool := false
  dryRun : Bool := false
  noWait : Bool := false
  config : Option String := none
  pending : Pending := .nothing

namespace Given

/-- Sets the file, once and to a path that is not empty. -/
def setConfig (given : Given) (path : String) : Except UsageError Given :=
  if given.config.isSome then .error .argumentConflict
  else if path.isEmpty then .error .invalidValue
  else .ok { given with config := some path, pending := .nothing }

/-- Settles the option that waits. -/
def settle (given : Given) : Except UsageError Given :=
  match given.pending with
  | .nothing => .ok given
  | .waiting => .error .invalidValue
  | .value path => given.setConfig path

/-- Sets a flag, once. -/
def setFlag (given : Given) : Flag → Except UsageError Given
  | .json => if given.json then .error .argumentConflict else .ok { given with json := true }
  | .dryRun => if given.dryRun then .error .argumentConflict else .ok { given with dryRun := true }
  | .noWait => if given.noWait then .error .argumentConflict else .ok { given with noWait := true }
  | .help => .error .displayHelp
  | .version => .error .displayVersion

/-- Reads an option, with the value attached to it if there is one. -/
def switch (given : Given) (attached : Option String) : Switch → Except UsageError Given
  | .flag flag =>
    match attached with
    | some _ => .error .tooManyValues
    | none => given.settle.bind fun given => given.setFlag flag
  | .config =>
    given.settle.bind fun given =>
      match attached with
      | some path => given.setConfig path
      | none => .ok { given with pending := .waiting }

/-- Reads an argument that starts with two dashes. -/
def readLong (level : Level) (given : Given) (argument : List Char) : Except UsageError Given :=
  let name := String.ofList (argument.takeWhile (· != '='))
  let attached := match argument.dropWhile (· != '=') with
    | [] => none
    | _ :: value => some (String.ofList value)
  match long? level name with
  | some option => given.switch attached option
  | none => .error .unknownArgument

/-- Reads an argument that starts with one dash: short names, the last of which may have
a value attached. -/
def readShort (level : Level) (given : Given) : List Char → Except UsageError Given
  | [] => .ok given
  | name :: rest =>
    match short? level name with
    | none => .error .unknownArgument
    | some .config =>
      let attached := match rest with
        | [] => none
        | '=' :: value => some (String.ofList value)
        | value => some (String.ofList value)
      given.switch attached .config
    | some flag => (given.switch none flag).bind fun given => readShort level given rest

end Given

/-- The error of an argument that is neither an option nor a value. -/
def strayError (level : Level) (onlyValues : Bool) (argument : String) : UsageError :=
  match level with
  | .top =>
    if onlyValues && ((command? argument).isSome || argument = "help") then .unknownArgument
    else .invalidCommand
  | _ => .unknownArgument

/-- What follows the word for help: the name of a command at most. -/
def helpError : List String → UsageError
  | [] => .displayHelp
  | [name] => if (command? name).isSome || name = "help" then .displayHelp else .invalidCommand
  | _ => .invalidCommand

/-- Reads the arguments of a level up to the name of a command, if there is one, and
yields that command with the arguments behind it. -/
def readLevel (level : Level) : (onlyValues : Bool) → Given → List String →
    Except UsageError (Given × Option (Level × List String))
  | _, given, [] => .ok (given, none)
  | onlyValues, given, argument :: rest =>
    let stray := .error (strayError level onlyValues argument)
    let expecting := given.pending = .waiting
    let named := if expecting || level ≠ .top then none else command? argument
    if onlyValues then stray
    else
      match named with
      | some command => .ok (given, some (command, rest))
      | none =>
        if !expecting && level = .top && argument = "help" then .error (helpError rest)
        else
          match argument.toList with
          | ['-', '-'] => readLevel level true given rest
          | '-' :: '-' :: option =>
            (given.readLong level option).bind fun given => readLevel level false given rest
          | '-' :: c :: option =>
            (given.readShort level (c :: option)).bind fun given =>
              readLevel level false given rest
          | _ =>
            if expecting then readLevel level false { given with pending := .value argument } rest
            else stray

/-- Settles the options of a level. Where no file is named, the variable for it must not
be empty. -/
def finish (fallback? : Option String) (given : Given) : Except UsageError Given :=
  given.settle.bind fun given =>
    match given.config, fallback? with
    | none, some "" => .error .invalidValue
    | _, _ => .ok given

end Arguments

/-- The environment variable that names a file where the arguments do not. -/
def Invocation.configVariable : String :=
  "TESTBENCH_CONFIG"

open Arguments in
/-- What arguments ask for, given the variable that names a file. -/
def Invocation.parse (fallback? : Option String) (arguments : List String) :
    Except UsageError Invocation := do
  let (given, found) ← readLevel .top false {} arguments
  match found with
  | none =>
    let given ← finish fallback? given
    if given.json || given.config.isSome || fallback?.isSome then .error .missingCommand
    else .error .displayHelpOnMissingCommand
  | some (level, rest) =>
    let (inner, _) ← readLevel level false {} rest
    let inner ← finish fallback? inner
    let given ← finish fallback? given
    let command := match level with
      | .init => Command.init inner.dryRun inner.noWait
      | .verify => .verify inner.noWait
      | _ => .schema
    pure
      { command
        json := given.json || inner.json
        config := inner.config <|> given.config <|> fallback? }

end SchemaBootstrap

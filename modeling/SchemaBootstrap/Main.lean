import SchemaBootstrap.CommandLine.Run
import SchemaBootstrap.Store.Unreachable
import Std.Time.DateTime

/-! # The program

Gathers what surrounds a run, runs the program on the arguments, and prints how the run
ends. The program has no connection to any network, so no server answers to it. The file of
the log is opened, and nothing is written to it.
-/

namespace SchemaBootstrap

namespace Main

/-- A result, or nothing if it cannot be had. -/
def attempt (action : IO α) : IO (Option α) :=
  try
    return some (← action)
  catch _ =>
    return none

/-- The text of a file at a path in a directory, or in one of those above it. -/
def readUpwards (path : String) : (levels : Nat) → IO (Option String)
  | 0 => attempt (IO.FS.readFile path)
  | levels + 1 => do
    match ← attempt (IO.FS.readFile path) with
    | some text => return some text
    | none => readUpwards ("../" ++ path) levels

/-- The text of a file that settings are read from. -/
def readLayer (path : String) : IO (Option String) := do
  if path.startsWith "/" then
    attempt (IO.FS.readFile path)
  else
    let place ← IO.currentDir
    readUpwards path (Text.pieces '/' place.toString.toList).length

/-- The environment of the process. -/
def readEnvironment : IO (List Variable) := do
  let content := (← attempt (IO.FS.readFile "/proc/self/environ")).getD ""
  return (Text.pieces '\x00' content.toList).map fun entry =>
    ⟨String.ofList (entry.takeWhile (· != '=')),
      String.ofList ((entry.dropWhile (· != '=')).drop 1)⟩

/-- A number with leading zeros. -/
def padded (width value : Nat) : String :=
  let digits := Nat.repr value
  Text.repeated "0" (width - digits.length) ++ digits

/-- The present time, in universal time. -/
def now : IO String := do
  let instant ← Std.Time.Timestamp.now
  let wall := Std.Time.WallTime.ofNanoseconds instant.toNanosecondsSinceUnixEpoch
  let moment := Std.Time.PlainDateTime.ofWallTime wall
  let date := moment.date
  let time := moment.time
  return padded 4 date.year.toInt.toNat ++ "-" ++ padded 2 date.month.toNat ++ "-"
    ++ padded 2 date.day.toNat ++ "T" ++ padded 2 time.hour.toNat ++ ":"
    ++ padded 2 time.minute.toNat ++ ":" ++ padded 2 time.second.toNat ++ "."
    ++ padded 9 time.nanosecond.toNat ++ "Z"

/-- A random number of some digits of base sixteen. -/
def randomDigits (count : Nat) : IO String := do
  let value ← IO.rand 0 (Nat.pow 16 count - 1)
  return String.ofList (ObjectId.digits value count)

/-- A new name for a run. -/
def newRunId : IO String := do
  let parts := [← randomDigits 8, ← randomDigits 4, "4" ++ (← randomDigits 3),
    "a" ++ (← randomDigits 3), ← randomDigits 12]
  return Text.joined "-" parts

/-- Whether the log file of a day can be opened in a directory, which is made if need be. -/
def keepsLog (day directory : String) : IO Bool := do
  let place := if directory.isEmpty then "." else directory
  let opened ← attempt do
    IO.FS.createDirAll place
    discard (IO.FS.Handle.mk (place ++ "/testbench-db.log." ++ day) .append)
  return opened.isSome

/-- What surrounds a run on the arguments, on a day. -/
def gather (day : String) (arguments : List String) : IO (Surroundings Unit) := do
  let environment ← readEnvironment
  let configured := Variable.value? Invocation.configVariable environment
  let extra := match Invocation.parse configured arguments with
    | .ok invocation => invocation.config
    | .error _ => none
  let texts ← (Settings.projectFile :: Settings.localFile :: extra.toList).mapM fun path => do
    return (path, ← readLayer path)
  let there ← extra.toList.filterMapM fun (path : String) => do
    return (← attempt (IO.FS.realPath path)).map fun _ => path
  let files : FileView :=
    { text? := fun path => (texts.lookup path).join, contains := there.contains }
  let directories := match Settings.load files environment extra with
    | .ok settings => settings.logging.directory.toList
    | .error _ => []
  let kept ← directories.filterM (keepsLog day)
  return {
    files := { files with keepsLog := kept.contains }
    environment
    connect := fun settings => .ok (.unreachable settings.database "there is no network") }

end Main

end SchemaBootstrap

open SchemaBootstrap in
/-- Runs the program and yields its exit code. -/
def main (arguments : List String) : IO UInt32 := do
  let startedAt ← Main.now
  let surroundings ← Main.gather (startedAt.takeWhile (· != 'T')).toString arguments
  let (result, _) := surroundings.run arguments ()
  let stamp : RunStamp := { runId := ← Main.newRunId, startedAt, finishedAt := ← Main.now }
  let palette : Palette := ⟨← (← IO.getStdout).isTty⟩
  IO.print (result.printed palette stamp)
  (result.errorLines palette).forM IO.eprintln
  return UInt32.ofNat result.exitCode

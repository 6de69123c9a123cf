import SchemaBootstrap.CommandLine.Notice
import SchemaBootstrap.Json.Text
import SchemaBootstrap.Text.Pieces

/-! # Failures of a command

A failure has a root cause and the contexts it was put into on its way up. A
failure whose details have been printed as the output of the command is not
reported a second time as JSON, so that the output is one document.
-/

namespace SchemaBootstrap

/-- Why a command fails. -/
structure CommandFailure where
  cause : String
  /-- Whether the output of the command says so already. -/
  reported : Bool
  /-- The contexts of the cause, the last one added first. -/
  contexts : List String
  deriving DecidableEq, Repr

namespace CommandFailure

/-- A failure without context. -/
def ofCause (cause : String) : CommandFailure where
  cause := cause
  reported := false
  contexts := []

/-- A failure that the output of the command has told. -/
def alreadyReported (cause : String) : CommandFailure where
  cause := cause
  reported := true
  contexts := []

/-- Puts a failure into a context. -/
def within (context : String) (failure : CommandFailure) : CommandFailure :=
  { failure with contexts := context :: failure.contexts }

/-- The outermost context, or the cause if there is none. -/
def message (failure : CommandFailure) : String :=
  failure.contexts.headD failure.cause

/-- All contexts from the outermost to the cause. -/
def fullMessage (failure : CommandFailure) : String :=
  Text.joined ": " (failure.contexts ++ [failure.cause])

/-- The line that reports a failure to people. -/
def line (palette : Palette) (failure : CommandFailure) : String :=
  palette.failure ("Error: " ++ failure.fullMessage)

/-- The JSON document that reports a failure, unless that has been done. -/
def json? (failure : CommandFailure) : Option Json :=
  if failure.reported then none
  else some (.object [("success", .bool false), ("error", .string failure.fullMessage)])

end CommandFailure

end SchemaBootstrap

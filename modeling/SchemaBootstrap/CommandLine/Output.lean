import SchemaBootstrap.Bootstrap.Plan
import SchemaBootstrap.Bootstrap.Verify
import SchemaBootstrap.CommandLine.Notice
import SchemaBootstrap.Schema.Json
import SchemaBootstrap.Bson.Text
import SchemaBootstrap.Text.Columns

/-! # What commands print

The result of a command is printed for people (`CommandOutput.human`) or as one
JSON document (`CommandOutput.toJson`).
-/

namespace SchemaBootstrap

/-- When a run took place and what it is called. -/
structure RunStamp where
  runId : String
  startedAt : String
  finishedAt : String

/-- The result of a command. -/
inductive CommandOutput where
  | plan (result : BootstrapPlan)
  | report (result : BootstrapReport)
  | verification (result : Verification)
  | schema (definition : SchemaDefinition)

namespace StepState

/-- The name of a state. -/
def label : StepState → String
  | pending => "pending"
  | satisfied => "satisfied"

/-- The word for a state in a table. -/
def word : StepState → String
  | pending => "pending"
  | satisfied => "exists"

end StepState

namespace PlannedStep

/-- The JSON form of a step. -/
def toJson : PlannedStep → Json
  | .collection name state =>
    .object
      [("action", .string "create_collection"), ("name", .string name),
        ("state", .string state.label)]
  | .index owner spec state =>
    .object
      [("action", .string "create_index"), ("collection", .string owner),
        ("index", spec.toJson), ("state", .string state.label)]

/-- The row of a step in a table. -/
def row (palette : Palette) : PlannedStep → List String
  | .collection name state => ["create collection", name, "-", "-", palette.outcome state.word]
  | .index owner spec state =>
    ["create index", owner, spec.name, palette.uniqueness spec.unique,
      palette.outcome state.word]

end PlannedStep

namespace BootstrapPlan

/-- The members of a plan's JSON form. -/
def members (plan : BootstrapPlan) : List (String × Json) :=
  [("dry_run", .bool true), ("up_to_date", .bool plan.isUpToDate),
    ("database", .string plan.database), ("actions", Json.list PlannedStep.toJson plan.steps)]

/-- A plan for people. -/
def human (palette : Palette) (plan : BootstrapPlan) : String :=
  let table : Columns :=
    { headings := ["step", "collection", "index", "unique", "state"]
      rows := plan.steps.map (PlannedStep.row palette) }
  let header :=
    if plan.isUpToDate then "Database '" ++ plan.database ++ "' is up to date."
    else
      Nat.repr plan.pending.length ++ " pending step(s) for database '" ++ plan.database ++ "':"
  header ++ "\n\n" ++ Columns.listing palette "step" table plan.steps.length

end BootstrapPlan

namespace BootstrapReport

/-- The sentence that sums up a run. -/
def summary (report : BootstrapReport) : String :=
  "Database '" ++ report.database
    ++ if report.changedAnything then "' initialized." else "' already initialized."

/-- The members of a report's JSON form. -/
def members (stamp : RunStamp) (report : BootstrapReport) : List (String × Json) :=
  [("success", .bool true), ("message", .string report.summary), ("run_id", .string stamp.runId),
    ("database", .string report.database), ("started_at", .string stamp.startedAt),
    ("finished_at", .string stamp.finishedAt),
    ("collections_created", Json.strings (Ensured.createdNames report.collections)),
    ("collections_existing", Json.strings (Ensured.existingNames report.collections)),
    ("indexes_created", Json.strings (Ensured.createdNames report.indexes)),
    ("indexes_existing", Json.strings (Ensured.existingNames report.indexes))]

/-- A heading with the names below it, or nothing if there are none. -/
def itemized (heading : String) (names : List String) : List String :=
  if names.isEmpty then [] else ("\n" ++ heading) :: names.map ("  - " ++ ·)

/-- A report for people. -/
def human (palette : Palette) (report : BootstrapReport) : String :=
  let existing :=
    (Ensured.existingNames report.collections ++ Ensured.existingNames report.indexes).length
  Text.joined "\n"
    (palette.success report.summary
      :: itemized "Created collections:" (Ensured.createdNames report.collections)
      ++ itemized "Created indexes:" (Ensured.createdNames report.indexes)
      ++ if existing = 0 then []
        else ["\n" ++ Nat.repr existing ++ " collection(s)/index(es) already present"])

end BootstrapReport

namespace IndexMismatch

/-- The JSON form of a mismatch. -/
def toJson (mismatch : IndexMismatch) : Json :=
  .object
    [("collection", .string mismatch.collection), ("expected", mismatch.expected.toJson),
      ("actual", mismatch.actual.toJson)]

/-- The row of a mismatch in a table. -/
def row (palette : Palette) (mismatch : IndexMismatch) : List String :=
  [qualifiedName mismatch.collection mismatch.actual.name,
    palette.outcome "mismatched" ++ ": expected " ++ mismatch.expected.description
      ++ ", found keys " ++ mismatch.actual.keys.text ++ " (unique: "
      ++ (if mismatch.actual.unique then "true" else "false") ++ ")"]

end IndexMismatch

namespace Verification

/-- The members of a verification's JSON form. -/
def members (verification : Verification) : List (String × Json) :=
  [("success", .bool verification.isSatisfied), ("database", .string verification.database),
    ("missing_collections", Json.strings verification.shortfall.collections),
    ("missing_indexes", Json.strings verification.shortfall.indexes),
    ("mismatched_indexes", Json.list IndexMismatch.toJson verification.shortfall.mismatches)]

/-- A verification for people. -/
def human (palette : Palette) (verification : Verification) : String :=
  if verification.isSatisfied then
    palette.success ("Database '" ++ verification.database ++ "' matches the schema.")
  else
    let shortfall := verification.shortfall
    let table : Columns :=
      { headings := ["object", "problem"]
        rows :=
          (shortfall.collections ++ shortfall.indexes).map
              (fun name => [name, palette.outcome "missing"])
            ++ shortfall.mismatches.map (IndexMismatch.row palette) }
    palette.failure ("Database '" ++ verification.database ++ "' does not match the schema.")
      ++ "\n\n" ++ table.text ++ "\n\nRun `testbench-db init` to create missing objects."

end Verification

namespace SchemaDefinition

/-- The rows of a collection in a table: one for each index, or one without. -/
def rows (palette : Palette) (collection : CollectionSpec) : List (List String) :=
  if collection.indexes.isEmpty then [[collection.name, "-", "-", "-"]]
  else
    collection.indexes.map fun spec =>
      [collection.name, spec.name, Text.joined ", " spec.paths, palette.uniqueness spec.unique]

/-- A definition for people. -/
def human (palette : Palette) (definition : SchemaDefinition) : String :=
  let table : Columns :=
    { headings := ["collection", "index", "fields", "unique"]
      rows := definition.collections.flatMap (rows palette) }
  "Database: " ++ definition.database ++ "\n\n"
    ++ Columns.listing palette "collection" table definition.collections.length

end SchemaDefinition

namespace CommandOutput

/-- The JSON form of a result. -/
def toJson (stamp : RunStamp) : CommandOutput → Json
  | .plan result => .object result.members
  | .report result => .object (result.members stamp)
  | .verification result => .object result.members
  | .schema definition => definition.toJson

/-- A result for people. -/
def human (palette : Palette) : CommandOutput → String
  | .plan result => result.human palette
  | .report result => result.human palette
  | .verification result => result.human palette
  | .schema definition => definition.human palette

end CommandOutput

end SchemaBootstrap

import SchemaBootstrap.Store.Basic
import SchemaBootstrap.Decoding.Fault

/-! # Failures at a database server

A request to a server fails because the server refuses it with a code, or because
the server is not reached or not up to it. A failure becomes the store error of the
operation that met with it: only a server that cannot be reached makes it a
connection error, whatever the operation.
-/

namespace SchemaBootstrap

/-- Why a request to a server fails. -/
inductive ServerFailure where
  /-- The server refuses a command. -/
  | command (code : Int32) (name detail : String)
  /-- The server refuses a write. -/
  | write (code : Int32) (name : Option String) (detail : String)
  /-- The server does not confirm a write as widely as asked. -/
  | writeConcern (code : Int32) (name detail : String)
  | io (detail : String)
  | serverSelection (detail : String)
  | connectionPoolCleared (detail : String)
  | dnsResolve (detail : String)
  | invalidArgument (detail : String)
  | shutdown
  | sessionsNotSupported
  | missingResumeToken
  | custom (detail : String)
  /-- A failure of any other kind, by the description of its kind. Numbers in it, such as those
  of the refused writes of a batch, are not a code of the failure. -/
  | other (description : String)
  /-- A failure with labels, in the order in which they are listed. -/
  | labelled (labels : List String) (failure : ServerFailure)
  deriving DecidableEq, Repr

namespace ServerFailure

/-- The code with which the server refuses a command or a write. -/
def code? : ServerFailure → Option Int32
  | command code _ _ => some code
  | write code _ _ => some code
  | labelled _ failure => failure.code?
  | _ => none

/-- Whether the server could not be reached. -/
def isUnreachable : ServerFailure → Bool
  | io _ => true
  | serverSelection _ => true
  | connectionPoolCleared _ => true
  | dnsResolve _ => true
  | labelled _ failure => failure.isUnreachable
  | _ => false

/-- The labels of a failure. -/
def labels : ServerFailure → List String
  | labelled labels failure => labels ++ failure.labels
  | _ => []

/-- The description of a failed write up to its details, given the texts of the name. -/
def writeText (kind : String) (code : Int32) (name detail : String) : String :=
  "An error occurred when trying to execute a write operation: " ++ kind ++ "(" ++ kind
    ++ " \x7b code: " ++ Wording.integer code.toInt ++ ", code_name: " ++ name
    ++ ", message: " ++ Text.quoted detail ++ ", details: None"

/-- Labels between brackets. -/
def labelText (opening closing : String) (labels : List String) : String :=
  ", labels: " ++ opening ++ Text.joined ", " (labels.map Text.quoted) ++ closing

/-- The description of the kind of a failure with labels. Of a write that is not confirmed they
are a part. -/
def kindText (labels : List String) : ServerFailure → String
  | command code name detail =>
    "Command failed: Error code " ++ Wording.integer code.toInt ++ " (" ++ name ++ "): " ++ detail
  | write code name detail =>
    let nameText := match name with
      | some name => "Some(" ++ Text.quoted name ++ ")"
      | none => "None"
    writeText "WriteError" code nameText detail ++ " \x7d)"
  | writeConcern code name detail =>
    writeText "WriteConcernError" code (Text.quoted name) detail ++ labelText "[" "]" labels
      ++ " \x7d)"
  | io detail => "I/O error: " ++ detail
  | serverSelection detail => "Server selection timeout: " ++ detail
  | connectionPoolCleared detail => detail
  | dnsResolve detail => "An error occurred during DNS resolution: " ++ detail
  | invalidArgument detail => "An invalid argument was provided: " ++ detail
  | shutdown => "Client has been shut down"
  | sessionsNotSupported =>
    "Attempted to start a session on a deployment that does not support sessions"
  | missingResumeToken =>
    "Cannot provide resume functionality when the resume token is missing"
  | custom detail => "Custom user error: " ++ detail
  | other description => description
  | labelled _ failure => failure.kindText labels

/-- The text of a failure: its kind and its labels. -/
def message (failure : ServerFailure) : String :=
  "Kind: " ++ failure.kindText failure.labels ++ labelText "\x7b" "\x7d" failure.labels

/-- There is no collection whose indexes could be listed. -/
def namespaceNotFound : Int32 := 26

/-- The collection to be created is there already. -/
def namespaceExists : Int32 := 48

/-- An index with the same keys or the same name has other options. -/
def indexOptionsConflict : Int32 := 85

/-- An index with the same name has other keys. -/
def indexKeySpecsConflict : Int32 := 86

/-- Two documents have the same key under a unique index. -/
def duplicateKey : Int32 := 11000

/-- The store error of a failure whose code has no meaning for the operation. -/
def classify (failure : ServerFailure) : StoreError :=
  if failure.isUnreachable then .connection failure.message else .backend failure.message

/-- The outcome of creating a collection with a failure: one that is there is none. -/
def ofCreation (failure : ServerFailure) : Except StoreError CollectionOutcome :=
  if failure.code? = some namespaceExists then .ok .alreadyExists
  else .error failure.classify

/-- The indexes of a collection if the server does not begin to list them: one that is not there
has none. -/
def ofListing (failure : ServerFailure) : Except StoreError (List ExistingIndex) :=
  if failure.code? = some namespaceNotFound then .ok []
  else .error failure.classify

/-- The store error of a failure to create an index. -/
def ofIndex (collection index : String) (failure : ServerFailure) : StoreError :=
  if failure.code? = some indexOptionsConflict ∨ failure.code? = some indexKeySpecsConflict then
    .indexConflict collection index failure.message
  else if failure.code? = some duplicateKey then .duplicateKey collection failure.message
  else failure.classify

/-- The store error of a failure to write a document. -/
def ofWrite (collection : String) (failure : ServerFailure) : StoreError :=
  if failure.code? = some duplicateKey then .duplicateKey collection failure.message
  else failure.classify

end ServerFailure

end SchemaBootstrap

import SchemaBootstrap.Server.Failure
import SchemaBootstrap.Server.IndexModel

/-! # Stores at a database server

Each request to a store is one command to the server (`ServerCommand.ofRequest`),
and the server's reply is turned into the answer (`ServerCommand.answer`). Any server with
states of some type thus becomes a store (`Server.asStore`).
-/

namespace SchemaBootstrap

/-- A command to a server. -/
inductive ServerCommand where
  | ping
  | listCollections
  | create (collection : String)
  | listIndexes (collection : String)
  | createIndexes (collection : String) (model : IndexModel)
  | insert (collection : String) (document : Document)
  deriving Repr

/-- What a server's reply to a command holds. Indexes are listed in a second step: what comes of
it, or the failure in it. -/
abbrev ServerCommand.Content : ServerCommand → Type
  | listCollections => List String
  | listIndexes _ => Except ServerFailure (List IndexModel)
  | _ => Unit

/-- A server with states of type `σ`: its replies to commands for a database, and the
states that follow. -/
structure Server (σ : Type) where
  reply : σ → (database : String) → (command : ServerCommand) →
    Except ServerFailure command.Content × σ

namespace ServerCommand

/-- The command for a request. -/
def ofRequest : Request → ServerCommand
  | .ping => ping
  | .listCollections => listCollections
  | .createCollection name => create name
  | .listIndexes collection => listIndexes collection
  | .createIndex collection spec => createIndexes collection spec.model
  | .insertDocument collection document => insert collection document

/-- The answer to a request, from the server's reply to its command. -/
def answer : (request : Request) → Except ServerFailure (ofRequest request).Content →
    Answer request
  | .ping, reply => reply.mapError ServerFailure.classify
  | .listCollections, reply => reply.mapError ServerFailure.classify
  | .createCollection _, reply =>
    match reply with
    | .ok () => .ok .created
    | .error failure => failure.ofCreation
  | .listIndexes _, reply =>
    match reply with
    | .ok listing => (listing.map IndexModel.existing).mapError ServerFailure.classify
    | .error failure => failure.ofListing
  | .createIndex collection spec, reply =>
    match reply with
    | .ok () => .ok spec.name
    | .error failure => .error (failure.ofIndex collection spec.name)
  | .insertDocument collection _, reply =>
    reply.mapError (ServerFailure.ofWrite collection)

end ServerCommand

/-- A server as the store that is bound to one of its databases. -/
def Server.asStore (server : Server σ) (database : String) : Store σ where
  database _ := database
  answer state request :=
    let replied := server.reply state database (.ofRequest request)
    (ServerCommand.answer request replied.1, replied.2)

end SchemaBootstrap

import SchemaBootstrap.Bson.Value
import SchemaBootstrap.Schema.Index

/-! # What a store is asked and what it answers

A store is reached by six requests (`Request`), each answered by a reply of the
type that belongs to it or by a `StoreError`. Only a failure to reach the store is
transient; any other error would come again.
-/

namespace SchemaBootstrap

/-- What became of a request to create a collection. -/
inductive CollectionOutcome where
  | created
  | alreadyExists
  deriving DecidableEq, Repr

/-- Why a store refuses a request. -/
inductive StoreError where
  /-- The store cannot be reached. -/
  | connection (detail : String)
  /-- An index cannot be created beside those that are there. -/
  | indexConflict (collection index detail : String)
  /-- Two documents would have the same key under a unique index. -/
  | duplicateKey (collection detail : String)
  /-- A document cannot be encoded. -/
  | serialization (detail : String)
  /-- Any other refusal. -/
  | backend (detail : String)
  deriving DecidableEq, Repr

namespace StoreError

/-- The text of an error. -/
def message : StoreError → String
  | connection detail => "Connection error: " ++ detail
  | indexConflict collection index detail =>
    "Index conflict on '" ++ collection ++ "' for '" ++ index ++ "': " ++ detail
  | duplicateKey collection detail => "Duplicate key in '" ++ collection ++ "': " ++ detail
  | serialization detail => "Serialization error: " ++ detail
  | backend detail => "Database error: " ++ detail

/-- Whether the same request may succeed later. -/
def transient : StoreError → Bool
  | connection _ => true
  | _ => false

end StoreError

/-- A request to a store. -/
inductive Request where
  | ping
  | listCollections
  | createCollection (name : String)
  | listIndexes (collection : String)
  | createIndex (collection : String) (index : IndexSpec)
  | insertDocument (collection : String) (document : Document)
  deriving Repr

/-- The type of what a successful request yields. The reply to the creation of an
index is the index's name. -/
abbrev Request.Reply : Request → Type
  | ping => Unit
  | listCollections => List String
  | createCollection _ => CollectionOutcome
  | listIndexes _ => List ExistingIndex
  | createIndex _ _ => String
  | insertDocument _ _ => Unit

/-- A reply, or the reason for the refusal. -/
abbrev Answer (request : Request) : Type :=
  Except StoreError request.Reply

/-- A store with states of type `σ`: the name of its database, and the answer to
each request with the state that follows. -/
structure Store (σ : Type) where
  database : σ → String
  answer : σ → (request : Request) → Answer request × σ

end SchemaBootstrap

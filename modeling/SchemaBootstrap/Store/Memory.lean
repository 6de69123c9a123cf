import SchemaBootstrap.Bson.Path
import SchemaBootstrap.Store.Basic
import SchemaBootstrap.Store.Catalog

/-! # A store held in memory

A store keeps for each collection its indexes and its documents, both in the order
in which they came. A collection comes into being with the first index or document
that is put into it. An index is not created beside one that has its name or its
keys but is not the same, and a unique index admits no two documents with the same
key. The first requests to reach the store may be left without an answer
(`MemoryStore.unavailablePings`).
-/

namespace SchemaBootstrap

namespace ExistingIndex

/-- The key of a document under an index; a missing value counts as null. -/
def key (index : ExistingIndex) (document : Document) : List Bson :=
  index.keys.names.map fun path => (document.lookup path).getD .null

/-- Whether two documents have the same key under an index. -/
def sameKey (index : ExistingIndex) (first second : Document) : Bool :=
  Bson.sameElements (index.key first) (index.key second)

/-- Whether one of some documents has the same key as a document. -/
def clashes (index : ExistingIndex) (documents : List Document) (document : Document) : Bool :=
  documents.any fun present => index.sameKey present document

/-- Whether two of some documents have the same key, after those seen before. -/
def repeatsKey (index : ExistingIndex) (seen : List Document) : List Document → Bool
  | [] => false
  | document :: rest =>
    index.clashes seen document || index.repeatsKey (seen ++ [document]) rest

end ExistingIndex

/-- What a store keeps for a collection. -/
structure MemoryCollection where
  indexes : List ExistingIndex
  documents : List Document

namespace MemoryCollection

/-- A collection without indexes and documents. -/
def empty : MemoryCollection where
  indexes := []
  documents := []

/-- The first unique index under which a document has the key of another one. -/
def violated? (collection : MemoryCollection) (document : Document) : Option ExistingIndex :=
  collection.indexes.find? fun index =>
    index.unique && index.clashes collection.documents document

/-- Adds a document to the collection called `name`. -/
def insert (collection : MemoryCollection) (name : String) (document : Document) :
    Except StoreError MemoryCollection :=
  match collection.violated? document with
  | some index =>
    .error (.duplicateKey name ("E11000 duplicate key error index: " ++ index.name))
  | none => .ok { collection with documents := collection.documents ++ [document] }

/-- Adds an index to the collection called `name`, unless it is there already. -/
def createIndex (collection : MemoryCollection) (name : String) (spec : IndexSpec) :
    Except StoreError MemoryCollection :=
  match collection.indexes.find? (·.name == spec.name) with
  | some present =>
    if present.satisfies spec then .ok collection
    else
      .error (.indexConflict name spec.name
        "an index with the same name but different options exists")
  | none =>
    match collection.indexes.find? (spec.matchesKeys ·.keys) with
    | some present =>
      .error (.indexConflict name spec.name
        ("index already exists with a different name: " ++ present.name))
    | none =>
      let index := ExistingIndex.ofSpec spec
      if index.unique && index.repeatsKey [] collection.documents then
        .error (.duplicateKey name
          ("cannot build unique index " ++ spec.name ++ " over existing documents"))
      else
        .ok { collection with indexes := collection.indexes ++ [index] }

/-- Puts an index at the end, instead of the one with its name. -/
def forceIndex (collection : MemoryCollection) (index : ExistingIndex) : MemoryCollection :=
  { collection with
    indexes := collection.indexes.filter (fun present => present.name != index.name) ++ [index] }

end MemoryCollection

/-- A store in memory. -/
structure MemoryStore where
  database : String
  collections : Catalog MemoryCollection
  /-- The number of pings that will still be left without an answer. -/
  unavailablePings : Nat

namespace MemoryStore

/-- A store without collections. -/
def empty (database : String) (unavailablePings : Nat) : MemoryStore where
  database := database
  collections := .empty
  unavailablePings := unavailablePings

/-- What the store keeps for a collection; nothing for one that is not there. -/
def collection (store : MemoryStore) (name : String) : MemoryCollection :=
  (store.collections.get? name).getD .empty

/-- The documents of a collection. -/
def documents (store : MemoryStore) (name : String) : List Document :=
  (store.collection name).documents

/-- Replaces what the store keeps for a collection. -/
def set (store : MemoryStore) (name : String) (collection : MemoryCollection) : MemoryStore :=
  { store with collections := store.collections.set name collection }

/-- Changes a collection, which comes into being if it is not there, and stays as it
is if the change is refused. -/
def change (store : MemoryStore) (name : String) (reply : α)
    (change : MemoryCollection → Except StoreError MemoryCollection) :
    Except StoreError α × MemoryStore :=
  match change (store.collection name) with
  | .ok collection => (.ok reply, store.set name collection)
  | .error error => (.error error, store.set name (store.collection name))

/-- Puts an index into a collection without regard to the others. -/
def forceIndex (store : MemoryStore) (name : String) (index : ExistingIndex) : MemoryStore :=
  store.set name ((store.collection name).forceIndex index)

/-- The answer to a request, and the store that follows. -/
def answer (store : MemoryStore) : (request : Request) → Answer request × MemoryStore
  | .ping =>
    match store.unavailablePings with
    | 0 => (.ok (), store)
    | pings + 1 =>
      (.error (.connection "server selection timed out"), { store with unavailablePings := pings })
  | .listCollections => (.ok store.collections.names, store)
  | .createCollection name =>
    if store.collections.contains name then (.ok .alreadyExists, store)
    else (.ok .created, store.set name .empty)
  | .listIndexes name => (.ok (store.collection name).indexes, store)
  | .createIndex name spec =>
    store.change name spec.name fun collection => collection.createIndex name spec
  | .insertDocument name document =>
    store.change name () fun collection => collection.insert name document

/-- The store in memory as a store. -/
def asStore : Store MemoryStore where
  database := MemoryStore.database
  answer := MemoryStore.answer

end MemoryStore

end SchemaBootstrap

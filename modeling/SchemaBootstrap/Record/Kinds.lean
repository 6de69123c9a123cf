import SchemaBootstrap.Bson.Extended

/-! # Records

The documents that the services of the evaluation pipeline write, one type for
each collection that holds such documents. A record is written with its fields in
declaration order, absent ones left out, and read from fields in any order.
-/

namespace SchemaBootstrap

/-- A type of documents that belong into one collection. -/
class CollectionRecord (ρ : Type) where
  /-- The collection of the documents. -/
  collection : String
  toDocument : ρ → Document
  ofDocument : Document → Except DecodeFault ρ

/-- A field that is left out when it is absent. -/
def optionalField (name : String) (write : α → Bson) : Option α → Document
  | none => []
  | some value => [(name, write value)]

/-- The identifier of a document, which the server assigns when it is absent. -/
def readId : Fields Bson (Option ObjectId) :=
  Fields.defaulted "_id" none (Bson.readOption Bson.readObjectId)

/-- The definition of a tokenizer, found by the hash of its content. -/
structure Tokenizer where
  id : Option ObjectId
  hash : String
  tokenizer : Document

instance : CollectionRecord Tokenizer where
  collection := "tokenizers"
  toDocument record :=
    optionalField "_id" .objectId record.id
      ++ [("hash", .string record.hash), ("tokenizer", .document record.tokenizer)]
  ofDocument document :=
    Fields.run
      (Tokenizer.mk <$> readId
        <*> Fields.required "hash" Bson.readText
        <*> Fields.defaulted "tokenizer" [] Bson.readDocument)
      (.pairs document)

/-- The endpoint to which the requests of a task go. -/
structure RequesterArgs where
  address : String
  service : String
  method : String := "POST"
  path : String := "/v1/completions"
  deriving DecidableEq, Repr

namespace RequesterArgs

/-- The fields of an endpoint in a document. -/
def toDocument (args : RequesterArgs) : Document :=
  [("address", .string args.address), ("service", .string args.service),
    ("method", .string args.method), ("path", .string args.path)]

/-- Reads the fields of an endpoint. -/
def fields : Fields Bson RequesterArgs :=
  mk <$> Fields.required "address" Bson.readText
    <*> Fields.required "service" Bson.readText
    <*> Fields.defaulted "method" "POST" Bson.readText
    <*> Fields.defaulted "path" "/v1/completions" Bson.readText

/-- Reads an endpoint from a document. -/
def ofDocument (document : Document) : Except DecodeFault RequesterArgs :=
  fields.run (.pairs document)

/-- Whether an endpoint has the usual method and path. -/
def isUsual (args : RequesterArgs) : Bool :=
  args == { address := args.address, service := args.service }

end RequesterArgs

/-- An evaluation that has been asked for. -/
structure Task where
  id : Option ObjectId
  framework : String
  tasks : String
  requesterArgs : RequesterArgs
  blacklist : List Int64
  quantity : Int64
  totalInstances : Int64
  requestType : String
  done : Bool

instance : CollectionRecord Task where
  collection := "tasks"
  toDocument record :=
    optionalField "_id" .objectId record.id
      ++ [("framework", .string record.framework), ("tasks", .string record.tasks),
        ("requester_args", .document record.requesterArgs.toDocument),
        ("blacklist", .array (record.blacklist.map .int64)), ("qty", .int64 record.quantity),
        ("total_instances", .int64 record.totalInstances),
        ("request_type", .string record.requestType), ("done", .bool record.done)]
  ofDocument document :=
    Fields.run
      (Task.mk <$> readId
        <*> Fields.required "framework" Bson.readText
        <*> Fields.required "tasks" Bson.readText
        <*> Fields.required "requester_args"
          (Bson.readRecord "RequesterArgs" 4 RequesterArgs.fields)
        <*> Fields.defaulted "blacklist" [] (Bson.readList Bson.readInteger)
        <*> Fields.required "qty" Bson.readInteger
        <*> Fields.required "total_instances" Bson.readInteger
        <*> Fields.required "request_type" Bson.readText
        <*> Fields.defaulted "done" false Bson.readBool)
      (.pairs document)

/-- A group of prompts of a task. -/
structure Instance where
  id : Option ObjectId
  taskId : ObjectId
  done : Bool

instance : CollectionRecord Instance where
  collection := "instances"
  toDocument record :=
    optionalField "_id" .objectId record.id
      ++ [("task_id", .objectId record.taskId), ("done", .bool record.done)]
  ofDocument document :=
    Fields.run
      (Instance.mk <$> readId
        <*> Fields.required "task_id" Bson.readObjectId
        <*> Fields.defaulted "done" false Bson.readBool)
      (.pairs document)

/-- A prompt: a text, or a request that contains one. -/
structure Prompt where
  id : Option ObjectId
  taskId : ObjectId
  instanceId : ObjectId
  data : Bson
  timeout : Int64
  done : Bool

instance : CollectionRecord Prompt where
  collection := "prompts"
  toDocument record :=
    optionalField "_id" .objectId record.id
      ++ [("task_id", .objectId record.taskId), ("instance_id", .objectId record.instanceId),
        ("data", record.data), ("timeout", .int64 record.timeout), ("done", .bool record.done)]
  ofDocument document :=
    Fields.run
      (Prompt.mk <$> readId
        <*> Fields.required "task_id" Bson.readObjectId
        <*> Fields.required "instance_id" Bson.readObjectId
        <*> Fields.required "data" Bson.resolve
        <*> Fields.defaulted "timeout" 0 Bson.readInteger
        <*> Fields.defaulted "done" false Bson.readBool)
      (.pairs document)

/-- What came back for a prompt. -/
structure Response where
  id : Option ObjectId
  taskId : ObjectId
  instanceId : ObjectId
  promptId : ObjectId
  succeeded : Bool
  response : Option Bson
  error : Option String

instance : CollectionRecord Response where
  collection := "responses"
  toDocument record :=
    optionalField "_id" .objectId record.id
      ++ [("task_id", .objectId record.taskId), ("instance_id", .objectId record.instanceId),
        ("prompt_id", .objectId record.promptId), ("ok", .bool record.succeeded)]
      ++ optionalField "response" id record.response
      ++ optionalField "error" .string record.error
  ofDocument document :=
    Fields.run
      (Response.mk <$> readId
        <*> Fields.required "task_id" Bson.readObjectId
        <*> Fields.required "instance_id" Bson.readObjectId
        <*> Fields.required "prompt_id" Bson.readObjectId
        <*> Fields.required "ok" Bson.readBool
        <*> Fields.defaulted "response" none (Bson.readOption Bson.resolve)
        <*> Fields.defaulted "error" none (Bson.readOption Bson.readText))
      (.pairs document)

/-- An endpoint that answers requests; there is at most one for an address and a service. -/
structure Node where
  id : Option ObjectId
  address : String
  service : String
  deriving DecidableEq, Repr

instance : CollectionRecord Node where
  collection := "nodes"
  toDocument record :=
    optionalField "_id" .objectId record.id
      ++ [("address", .string record.address), ("service", .string record.service)]
  ofDocument document :=
    Fields.run
      (Node.mk <$> readId
        <*> Fields.required "address" Bson.readText
        <*> Fields.required "service" Bson.readText)
      (.pairs document)

end SchemaBootstrap

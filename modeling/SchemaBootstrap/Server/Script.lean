import SchemaBootstrap.Server.Connection

/-! # Servers that follow a script

A server without data: it replies as a script says, accepts what the script does
not mention, and records the commands that it receives.
-/

namespace SchemaBootstrap

/-- The replies of a server to commands. -/
structure ServerScript where
  ping : Option ServerFailure
  collections : Except ServerFailure (List String)
  create : List (String × ServerFailure)
  indexes : List (String × Except ServerFailure (List IndexModel))
  createIndex : List (String × ServerFailure)
  insert : List (String × ServerFailure)

/-- A server that follows a script, with the commands received so far. -/
structure ScriptedServer where
  script : ServerScript
  received : List (String × ServerCommand)

namespace ScriptedServer

/-- Success, unless there is a failure. -/
def accept : Option ServerFailure → Except ServerFailure Unit
  | none => .ok ()
  | some failure => .error failure

/-- The reply of a script to a command. -/
def scripted (script : ServerScript) :
    (command : ServerCommand) → Except ServerFailure command.Content
  | .ping => accept script.ping
  | .listCollections => script.collections
  | .create collection => accept (script.create.lookup collection)
  | .listIndexes collection => ((script.indexes.lookup collection).getD (.ok [])).map .ok
  | .createIndexes collection _ => accept (script.createIndex.lookup collection)
  | .insert collection _ => accept (script.insert.lookup collection)

/-- The server as a server. -/
def asServer : Server ScriptedServer where
  reply server database command :=
    (scripted server.script command,
      { server with received := server.received ++ [(database, command)] })

end ScriptedServer

end SchemaBootstrap

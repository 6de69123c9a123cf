import SchemaBootstrap.Store.Basic

/-! # Stores that cannot be reached

A store that answers every request with the failure to reach it.
-/

namespace SchemaBootstrap

/-- A store for a database that nothing answers for. -/
def Store.unreachable (database detail : String) : Store Unit where
  database _ := database
  answer _ _ := (.error (.connection detail), ())

end SchemaBootstrap

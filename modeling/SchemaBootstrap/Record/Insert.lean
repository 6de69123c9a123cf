import SchemaBootstrap.Record.Kinds
import SchemaBootstrap.Store.Program

/-! # Inserting records

A record is put into its collection as the document that it is written as.
-/

namespace SchemaBootstrap

/-- Inserts a record into its collection. -/
def insertRecord [CollectionRecord ρ] (record : ρ) : Program StoreError Unit :=
  Program.request
    (.insertDocument (CollectionRecord.collection ρ) (CollectionRecord.toDocument record))

end SchemaBootstrap

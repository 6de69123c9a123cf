import SchemaBootstrap.Proofs.Schema.IndexKeys
import SchemaBootstrap.Proofs.Schema.Validity
import SchemaBootstrap.Record.Kinds
import SchemaBootstrap.Store.Memory

/-! # Records carry what is indexed

The indexes of the testbench name fields by dotted paths, and the records write fields under
names of their own. Here the two are brought together: every index on the collection of a
record finds a value of the record at each of its paths (`CarriesIndexed`), so that the key of
the record under the index has no gap that null would fill. An identifier in front of the
other fields does not matter, since no index enters a field with its name
(`SchemaDefinition.testbench_spares_id`).
-/

namespace SchemaBootstrap

open CollectionRecord

namespace Document

/-- A path that begins with another name passes over a field that may be absent. -/
theorem lookup_optionalField_append {name path : String}
    (apart : (segments path).head? ≠ some name) (write : α → Bson) (value : Option α)
    (fields : Document) :
    lookup (optionalField name write value ++ fields) path = lookup fields path := by
  cases value with
  | none => rfl
  | some value =>
      unfold lookup
      cases cut : segments path with
      | nil => exact absurd (List.map_eq_nil_iff.mp cut) (Text.pieces_ne_nil _ _)
      | cons first rest =>
          have differ : first ≠ name := fun same => apart (by rw [cut, same]; rfl)
          change ((List.lookup first ((name, write value) :: fields)).bind _) = _
          rw [Catalog.lookup_cons, if_neg differ]
          rfl

/-- A document has certain values at paths, one by one. -/
@[reducible] def Holds (document : Document) : List (String × Bson) → Prop
  | [] => True
  | (path, value) :: rest => document.lookup path = some value ∧ document.Holds rest

/-- A document holds values if each of them stands at its path. -/
theorem holds_iff (document : Document) (values : List (String × Bson)) :
    document.Holds values ↔ ∀ entry ∈ values, document.lookup entry.1 = some entry.2 := by
  induction values with
  | nil => simp only [Holds, List.not_mem_nil, false_implies, implies_true]
  | cons entry rest ih => rw [Holds, ih, List.forall_mem_cons]

end Document

/-- The key of a document under the index of a specification that repeats no path: what stands
at the paths. -/
theorem ExistingIndex.key_ofSpec {spec : IndexSpec} (distinct : spec.paths.Nodup)
    (document : Document) :
    (ofSpec spec).key document = spec.paths.map fun path => (document.lookup path).getD .null := by
  rw [key, names_keys_of_satisfies ((ofSpec_satisfies_self_iff spec).mpr distinct)]

/-- No index of the testbench looks at identifiers of documents. -/
theorem SchemaDefinition.testbench_spares_id :
    ∀ declared ∈ testbench.collections, ∀ spec ∈ declared.indexes, ∀ path ∈ spec.paths,
      (Document.segments path).head? ≠ some "_id" := by
  decide

/-- The testbench declares the collection of a record with one index, over the paths of some
values. The document of the record has these values at the paths, and they are its key under
the index, in which null does not occur. -/
def CarriesIndexed [CollectionRecord ρ] (record : ρ) (values : List (String × Bson)) : Prop :=
  ∃ declared, SchemaDefinition.testbench.collection? (collection ρ) = some declared ∧
    declared.indexes.map IndexSpec.paths = [values.map Prod.fst] ∧
    (∀ entry ∈ values, (toDocument record).lookup entry.1 = some entry.2) ∧
    ∀ spec ∈ declared.indexes,
      (ExistingIndex.ofSpec spec).key (toDocument record) = values.map Prod.snd ∧
        .null ∉ (ExistingIndex.ofSpec spec).key (toDocument record)

/-- It is enough to look at the fields behind the identifier. -/
theorem carriesIndexed_of_fields [CollectionRecord ρ] {record : ρ} {id : Option ObjectId}
    {fields : Document} {declared : CollectionSpec} {values : List (String × Bson)}
    (known : SchemaDefinition.testbench.collection? (collection ρ) = some declared)
    (paths : declared.indexes.map IndexSpec.paths = [values.map Prod.fst])
    (written : toDocument record = optionalField "_id" .objectId id ++ fields)
    (found : fields.Holds values)
    (proper : .null ∉ values.map Prod.snd) : CarriesIndexed record values := by
  have member := List.mem_of_find?_eq_some known
  have covers : ∀ spec ∈ declared.indexes, spec.paths = values.map Prod.fst := by
    intro spec inside
    have listed := List.mem_map_of_mem (f := IndexSpec.paths) inside
    rw [paths] at listed
    exact List.mem_singleton.mp listed
  obtain ⟨only, single, -⟩ := List.map_eq_singleton_iff.mp paths
  have there : ∀ entry ∈ values, (toDocument record).lookup entry.1 = some entry.2 := by
    intro entry inside
    have first : only ∈ declared.indexes := by
      rw [single]
      exact List.mem_singleton_self only
    have path : entry.1 ∈ only.paths := by
      rw [covers only first]
      exact List.mem_map_of_mem inside
    rw [written, Document.lookup_optionalField_append
      (SchemaDefinition.testbench_spares_id declared member only first _ path)]
    exact (fields.holds_iff values).mp found entry inside
  refine ⟨declared, known, paths, there, fun spec inside => ?_⟩
  have valid : SchemaDefinition.testbench.violation? = none := rfl
  have distinct := (SchemaDefinition.declarable valid).paths declared member spec inside
  have key : (ExistingIndex.ofSpec spec).key (toDocument record) = values.map Prod.snd := by
    rw [ExistingIndex.key_ofSpec distinct, covers spec inside, List.map_map]
    refine List.map_congr_left fun entry inside => ?_
    rw [Function.comp_apply, there entry inside, Option.getD_some]
  exact ⟨key, key ▸ proper⟩

/-- A tokenizer carries what its index is about. -/
theorem Tokenizer.carriesIndexed (record : Tokenizer) :
    CarriesIndexed record [("hash", .string record.hash)] :=
  carriesIndexed_of_fields rfl rfl rfl ⟨rfl, trivial⟩ (by simp)

/-- A task carries what its indexes are about, also within the arguments of its requester. -/
theorem Task.carriesIndexed (record : Task) :
    CarriesIndexed record
      [("tasks", .string record.tasks), ("framework", .string record.framework),
        ("requester_args.address", .string record.requesterArgs.address),
        ("requester_args.service", .string record.requesterArgs.service),
        ("done", .bool record.done)] :=
  carriesIndexed_of_fields rfl rfl rfl ⟨rfl, rfl, rfl, rfl, rfl, trivial⟩ (by simp)

/-- An instance carries what its index is about. -/
theorem Instance.carriesIndexed (record : Instance) :
    CarriesIndexed record
      [("task_id", .objectId record.taskId), ("done", .bool record.done)] :=
  carriesIndexed_of_fields rfl rfl rfl ⟨rfl, rfl, trivial⟩ (by simp)

/-- A prompt carries what its index is about. -/
theorem Prompt.carriesIndexed (record : Prompt) :
    CarriesIndexed record
      [("task_id", .objectId record.taskId), ("instance_id", .objectId record.instanceId),
        ("done", .bool record.done)] :=
  carriesIndexed_of_fields rfl rfl rfl ⟨rfl, rfl, rfl, trivial⟩ (by simp)

/-- A response carries what its indexes are about. -/
theorem Response.carriesIndexed (record : Response) :
    CarriesIndexed record
      [("task_id", .objectId record.taskId), ("instance_id", .objectId record.instanceId),
        ("prompt_id", .objectId record.promptId), ("ok", .bool record.succeeded)] := by
  have written : toDocument record = _ :=
    (List.append_assoc _ _ _).trans (List.append_assoc _ _ _)
  exact carriesIndexed_of_fields rfl rfl written ⟨rfl, rfl, rfl, rfl, trivial⟩ (by simp)

/-- A node carries what its index is about. -/
theorem Node.carriesIndexed (record : Node) :
    CarriesIndexed record
      [("address", .string record.address), ("service", .string record.service)] :=
  carriesIndexed_of_fields rfl rfl rfl ⟨rfl, rfl, trivial⟩ (by simp)

/-- **Records line up with the declared indexes.** Whatever a record contains, and whether its
identifier and its other optional fields are there or not, the one index on its collection
finds the values of the record that it is meant for, and so never null in the place of a value
that is not there. -/
theorem records_carry_indexed :
    (∀ record : Tokenizer, CarriesIndexed record [("hash", .string record.hash)]) ∧
    (∀ record : Task, CarriesIndexed record
      [("tasks", .string record.tasks), ("framework", .string record.framework),
        ("requester_args.address", .string record.requesterArgs.address),
        ("requester_args.service", .string record.requesterArgs.service),
        ("done", .bool record.done)]) ∧
    (∀ record : Instance, CarriesIndexed record
      [("task_id", .objectId record.taskId), ("done", .bool record.done)]) ∧
    (∀ record : Prompt, CarriesIndexed record
      [("task_id", .objectId record.taskId), ("instance_id", .objectId record.instanceId),
        ("done", .bool record.done)]) ∧
    (∀ record : Response, CarriesIndexed record
      [("task_id", .objectId record.taskId), ("instance_id", .objectId record.instanceId),
        ("prompt_id", .objectId record.promptId), ("ok", .bool record.succeeded)]) ∧
    (∀ record : Node, CarriesIndexed record
      [("address", .string record.address), ("service", .string record.service)]) :=
  ⟨Tokenizer.carriesIndexed, Task.carriesIndexed, Instance.carriesIndexed,
    Prompt.carriesIndexed, Response.carriesIndexed, Node.carriesIndexed⟩

end SchemaBootstrap

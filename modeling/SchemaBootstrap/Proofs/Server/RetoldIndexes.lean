import SchemaBootstrap.Proofs.Schema.KeyDirections
import SchemaBootstrap.Proofs.Server.FailureReading
import SchemaBootstrap.Proofs.Store.IndexCreation
import SchemaBootstrap.Server.Script

/-! # Indexes that a server tells of again

A server that has been asked for an index may describe it in other words: with numbers of another
type for the directions, and with or without saying that it is not unique
(`IndexModel.Retells`). Among the descriptions of a collection's indexes it is then found as it
was asked for (`IndexSpec.found_as_asked`), since what is passed over has no name or the one name
that no specification has (`IndexSpec.name_ne_identifierIndex`).
-/

namespace SchemaBootstrap

namespace Text

/-- The first of several texts is followed by a separator. -/
theorem joined_cons_of_ne_nil (separator text : String) {rest : List String} (more : rest ≠ []) :
    joined separator (text :: rest) = text ++ separator ++ joined separator rest := by
  cases rest with
  | nil => exact absurd rfl more
  | cons next rest => rw [joined]

/-- What is joined ends with the last text. -/
theorem exists_joined_concat (separator : String) (texts : List String) (last : String) :
    ∃ before, joined separator (texts ++ [last]) = before ++ last := by
  induction texts with
  | nil => exact ⟨"", String.empty_append.symm⟩
  | cons text texts ih =>
      obtain ⟨before, joins⟩ := ih
      refine ⟨text ++ separator ++ before, ?_⟩
      have more : texts ++ [last] ≠ [] :=
        List.append_ne_nil_of_right_ne_nil _ (List.cons_ne_nil _ _)
      rw [List.cons_append, joined_cons_of_ne_nil _ _ more, joins, String.append_assoc,
        String.append_assoc, String.append_assoc]

end Text

namespace IndexSpec

/-- A default name ends with a digit, or is empty. -/
theorem getLast?_name (spec : IndexSpec) :
    spec.fields = [] ∧ spec.name = "" ∨ spec.name.toList.getLast? = some '1' := by
  obtain empty | ⟨fields, last, ends⟩ := List.eq_nil_or_concat spec.fields
  · refine .inl ⟨empty, ?_⟩
    rw [name, empty]
    rfl
  · refine .inr ?_
    obtain ⟨before, joins⟩ := Text.exists_joined_concat "_"
      (fields.map fun field => field.path ++ "_" ++ field.order.suffix)
      (last.path ++ "_" ++ last.order.suffix)
    rw [name, ends, List.concat_eq_append, List.map_append, List.map_singleton, joins]
    obtain ⟨sign, written⟩ : ∃ sign, last.order.suffix = sign ++ "1" := by
      cases last.order with
      | ascending => exact ⟨"", rfl⟩
      | descending => exact ⟨"-", rfl⟩
    rw [written]
    simp only [String.toList_append]
    rw [← List.append_assoc, ← List.append_assoc]
    exact List.getLast?_concat

/-- No specification has the name of the index on the identifiers. -/
theorem name_ne_identifierIndex (spec : IndexSpec) : spec.name ≠ IndexModel.identifierIndex := by
  intro same
  obtain ⟨-, empty⟩ | last := spec.getLast?_name
  · exact absurd (empty.symm.trans same) (by decide)
  · rw [same] at last
    exact absurd last (by decide)

end IndexSpec

namespace Document

/-- Keys are read as their names with their directions. -/
theorem readKeys_eq_zip (keys : Document) :
    keys.readKeys = keys.names.zip (keys.map fun pair => pair.2.direction?) := by
  simp only [readKeys, names, List.zip_map', SortOrder.ofBson?_eq_direction?]

end Document

namespace IndexModel

/-- A description that a server gives of an index that it has been asked for: the name and the
paths are as they were, the numbers for the directions have the signs that they had, and
uniqueness is told unless there is none. -/
structure Retells (told asked : IndexModel) : Prop where
  name : told.name = asked.name
  paths : told.keys.names = asked.keys.names
  directions : (told.keys.map fun pair => pair.2.direction?) =
    asked.keys.map fun pair => pair.2.direction?
  unique : told.unique.getD false = asked.unique.getD false

/-- A specification is asked for as the index that it would bring about. -/
theorem existing?_model (spec : IndexSpec) :
    spec.model.existing? = some (ExistingIndex.ofSpec spec) := by
  obtain ⟨fields, unique⟩ := spec
  cases unique <;> rfl

/-- An index exists if it is listed with a name, other than the one that every collection has. -/
theorem mem_existing_iff {models : List IndexModel} {index : ExistingIndex} :
    index ∈ existing models ↔
      (∃ model ∈ models, model.existing? = some index) ∧ index.name ≠ identifierIndex := by
  rw [existing, List.mem_filter, List.mem_filterMap, bne_iff_ne]

/-- Of the descriptions, in their order, those without a name and those of the index on the
identifiers are passed over. -/
theorem names_existing (models : List IndexModel) :
    (existing models).map ExistingIndex.name =
      (models.filterMap IndexModel.name).filter (· != identifierIndex) := by
  have named : ∀ model : IndexModel, model.existing?.map ExistingIndex.name = model.name := by
    intro model
    rw [existing?, Option.map_map]
    exact Option.map_id'
  have all : models.filterMap IndexModel.name =
      (models.filterMap existing?).map ExistingIndex.name := by
    rw [List.map_filterMap]
    simp only [named]
  rw [existing, all, List.filter_map]
  rfl

variable {spec : IndexSpec} {told : IndexModel} {index : ExistingIndex}

/-- A listed index is taken with its name, its keys and its uniqueness. -/
theorem existing?_eq_some_iff :
    told.existing? = some index ↔
      told.name = some index.name ∧ told.keys = index.keys ∧
        told.unique.getD false = index.unique := by
  obtain ⟨keys, name, unique⟩ := told
  obtain ⟨name', keys', unique'⟩ := index
  cases name <;> simp [existing?]

/-- An index that is told of again has the keys and the uniqueness that were asked for. -/
theorem Retells.satisfies (retells : told.Retells spec.model) (distinct : spec.paths.Nodup)
    (listed : told.existing? = some index) : index.satisfies spec = true := by
  obtain ⟨-, keys, unique⟩ := existing?_eq_some_iff.mp listed
  have reads : index.keys.readKeys = spec.keys.readKeys := by
    rw [← keys, Document.readKeys_eq_zip, Document.readKeys_eq_zip, retells.paths,
      retells.directions]
    rfl
  have asked : spec.model.unique.getD false = spec.unique :=
    (existing?_eq_some_iff.mp (existing?_model spec)).2.2
  apply (ExistingIndex.satisfies_iff index spec).mpr
  rw [reads, IndexSpec.readKeys_keys distinct, ← unique, retells.unique, asked]
  exact ⟨rfl, rfl⟩

/-- A description that tells of an index again is the one that is found under its name, if no
other one has this name. -/
theorem Retells.find?_existing {models : List IndexModel} (retells : told.Retells spec.model)
    (member : told ∈ models) (alone : ∀ other ∈ models, other.name = told.name → other = told) :
    ∃ index, told.existing? = some index ∧
      (existing models).find? (·.name == spec.name) = some index := by
  have name : told.name = some spec.name := retells.name
  let index : ExistingIndex := ⟨spec.name, told.keys, told.unique.getD false⟩
  have listed : told.existing? = some index := existing?_eq_some_iff.mpr ⟨name, rfl, rfl⟩
  refine ⟨index, listed, ?_⟩
  have there : index ∈ existing models :=
    mem_existing_iff.mpr ⟨⟨told, member, listed⟩, spec.name_ne_identifierIndex⟩
  cases found : (existing models).find? (·.name == spec.name) with
  | none =>
      have unnamed := List.find?_eq_none.mp found index there
      exact absurd (beq_self_eq_true spec.name) unnamed
  | some other =>
      -- It is listed for some description, which by its name can only be the one told.
      have same : other.name = spec.name := by simpa using List.find?_some found
      obtain ⟨⟨model, inside, tells⟩, -⟩ := mem_existing_iff.mp (List.mem_of_find?_eq_some found)
      have namesake : model.name = told.name := by
        rw [(existing?_eq_some_iff.mp tells).1, same, name]
      have one : model = told := alone model inside namesake
      rw [← listed, ← one, tells]

/-- A retold index is classified as satisfied, whatever is listed beside it. -/
theorem Retells.classify_existing {models : List IndexModel} (retells : told.Retells spec.model)
    (distinct : spec.paths.Nodup) (member : told ∈ models)
    (alone : ∀ other ∈ models, other.name = told.name → other = told) :
    IndexPresence.classify (existing models) spec = .satisfied := by
  obtain ⟨index, listed, found⟩ := retells.find?_existing member alone
  apply (IndexPresence.classify_eq_satisfied_iff _ spec).mpr
  exact ⟨index, found, retells.satisfies distinct listed⟩

end IndexModel

/-- The reply to a listing of indexes is what exists of it. -/
theorem Server.answer_listIndexes {server : Server σ} {state : σ} {database collection : String}
    {models : List IndexModel}
    (listed : (server.reply state database (.listIndexes collection)).1 = .ok (.ok models)) :
    ((server.asStore database).answer state (.listIndexes collection)).1 =
      .ok (IndexModel.existing models) :=
  (ServerCommand.answer_listIndexes_eq_ok_iff _ _).mpr (.inl ⟨models, listed, rfl⟩)

namespace IndexSpec

/-- **An index that a server tells of again is found as it was asked for.** Whatever else the
server lists, the index of a specification without repeated paths is there as declared, if it is
told of again and nothing else is listed under its name; what is passed over is only what has no
name and the index on the identifiers. What is asked for at a server is also the index that a
store in memory adds. -/
theorem found_as_asked :
    (∀ (spec : IndexSpec) (told : IndexModel) (models : List IndexModel),
      spec.paths.Nodup → told.Retells spec.model → told ∈ models →
      (∀ other ∈ models, other.name = told.name → other = told) →
      ∀ {σ : Type} (server : Server σ) (state : σ) (database collection : String),
        (server.reply state database (.listIndexes collection)).1 = .ok (.ok models) →
        ∃ present : List ExistingIndex,
          ((server.asStore database).answer state (.listIndexes collection)).1 = .ok present ∧
          present.map ExistingIndex.name =
            (models.filterMap IndexModel.name).filter (· != IndexModel.identifierIndex) ∧
          IndexPresence.classify present spec = .satisfied) ∧
    (∀ spec : IndexSpec, spec.model.existing? = some (ExistingIndex.ofSpec spec)) ∧
    ∀ (collection result : MemoryCollection) (name : String) (spec : IndexSpec),
      IndexPresence.classify collection.indexes spec = .missing →
      collection.createIndex name spec = .ok result →
      result.indexes = collection.indexes ++ spec.model.existing?.toList := by
  refine ⟨?_, IndexModel.existing?_model, ?_⟩
  · intro spec told models distinct retells member alone σ server state database collection listed
    exact ⟨IndexModel.existing models, Server.answer_listIndexes listed,
      IndexModel.names_existing models, retells.classify_existing distinct member alone⟩
  · intro collection result name spec missing created
    obtain ⟨-, rfl⟩ := MemoryCollection.createIndex_eq_ok_iff.mp created
    rw [MemoryCollection.withIndex_of_missing missing, IndexModel.existing?_model]
    rfl

/-- A unique index in both directions. -/
def twoWay : IndexSpec where
  fields := [⟨"address", .ascending⟩, ⟨"args.service", .descending⟩]
  unique := true

/-- The same index in a server's words, with an integer and a double for its directions. -/
def twoWayRetold : IndexModel where
  keys := [("address", .int64 1), ("args.service", .double ⟨0xbff0000000000000⟩)]
  name := some "address_1_args.service_-1"
  unique := some true

/-- What a server lists: the index between others, of which one has no name. -/
def twoWayListed : List IndexModel :=
  [⟨[("_id", .int32 1)], some "_id_", none⟩, ⟨[("address", .int32 1)], none, none⟩, twoWayRetold,
    ⟨[("done", .string "hashed")], some "done_hashed", some false⟩]

/-- A server that lists it. -/
def twoWayServer : ScriptedServer where
  script := ⟨none, .ok ["nodes"], [], [("nodes", .ok twoWayListed)], [], []⟩
  received := []

/-- An integer and a double retell the directions. -/
theorem twoWayRetold_retells : twoWayRetold.Retells twoWay.model where
  name := by decide
  paths := by decide
  directions := by
    simp only [← SortOrder.ofBson?_eq_direction?]
    decide
  unique := by decide

/-- The retold index is found between others, and is what the memory store would have. -/
theorem found_as_asked_among_others :
    (twoWay.paths.Nodup ∧ twoWayRetold.Retells twoWay.model ∧ twoWayRetold ∈ twoWayListed ∧
      (∀ other ∈ twoWayListed, other.name = twoWayRetold.name → other = twoWayRetold) ∧
      (ScriptedServer.asServer.reply twoWayServer "db" (.listIndexes "nodes")).1 =
        .ok (.ok twoWayListed) ∧
      ∃ present : List ExistingIndex,
        ((ScriptedServer.asServer.asStore "db").answer twoWayServer (.listIndexes "nodes")).1 =
          .ok present ∧
        present.map ExistingIndex.name =
          (twoWayListed.filterMap IndexModel.name).filter (· != IndexModel.identifierIndex) ∧
        IndexPresence.classify present twoWay = .satisfied) ∧
    ∃ result : MemoryCollection,
      IndexPresence.classify MemoryCollection.empty.indexes twoWay = .missing ∧
      MemoryCollection.empty.createIndex "nodes" twoWay = .ok result ∧
      result.indexes = MemoryCollection.empty.indexes ++ twoWay.model.existing?.toList := by
  have distinct : twoWay.paths.Nodup := by decide
  have member : twoWayRetold ∈ twoWayListed := by simp [twoWayListed]
  have alone : ∀ other ∈ twoWayListed, other.name = twoWayRetold.name → other = twoWayRetold := by
    simp [twoWayListed, twoWayRetold]
  refine ⟨⟨distinct, twoWayRetold_retells, member, alone, rfl, ?_⟩, _, rfl, rfl, ?_⟩
  · exact found_as_asked.1 twoWay twoWayRetold twoWayListed distinct twoWayRetold_retells member
      alone ScriptedServer.asServer twoWayServer "db" "nodes" rfl
  · exact found_as_asked.2.2 .empty _ "nodes" twoWay rfl rfl

end IndexSpec

end SchemaBootstrap

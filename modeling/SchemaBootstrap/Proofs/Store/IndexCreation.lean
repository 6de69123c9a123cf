import SchemaBootstrap.Bootstrap.Presence
import SchemaBootstrap.Proofs.Schema.IndexKeys
import SchemaBootstrap.Proofs.Store.KeySeparation

/-! # Creating indexes in one collection

How a declared index relates to the indexes of a collection decides what becomes
of its creation. A collection admits an index that it has as declared, or that it
lacks while its documents leave room for it (`MemoryCollection.Admits`); creation
succeeds on these only, and then adds the index unless its name is taken
(`MemoryCollection.createIndex_eq_ok_iff`). Indexes that are created one after the
other are in each other's way only by their names
(`MemoryCollection.admitsInOrder_iff`).
-/

namespace SchemaBootstrap

namespace IndexPresence

/-- A specification is satisfied by the index with its name. -/
theorem classify_eq_satisfied_iff (present : List ExistingIndex) (spec : IndexSpec) :
    classify present spec = .satisfied ↔
      ∃ index, present.find? (·.name == spec.name) = some index ∧
        index.satisfies spec = true := by
  rw [classify]
  cases named : present.find? (·.name == spec.name) with
  | some index =>
      by_cases satisfies : index.satisfies spec = true <;>
        simp only [satisfies, Bool.false_eq_true, ↓reduceIte, reduceCtorEq, Option.some.injEq,
          exists_eq_left']
  | none =>
      cases present.find? (spec.matchesKeys ·.keys) <;>
        simp only [reduceCtorEq, false_and, exists_false]

/-- A specification is missing if neither its name nor its keys are taken. -/
theorem classify_eq_missing_iff (present : List ExistingIndex) (spec : IndexSpec) :
    classify present spec = .missing ↔
      present.find? (·.name == spec.name) = none ∧
        present.find? (spec.matchesKeys ·.keys) = none := by
  rw [classify]
  cases named : present.find? (·.name == spec.name) with
  | some index =>
      by_cases satisfies : index.satisfies spec = true <;>
        simp only [satisfies, Bool.false_eq_true, ↓reduceIte, reduceCtorEq, false_and]
  | none =>
      cases present.find? (spec.matchesKeys ·.keys) <;>
        simp only [reduceCtorEq, and_true, and_false]

/-- Further indexes do not change what has been found as declared. -/
theorem classify_eq_satisfied_of_prefix {present grown : List ExistingIndex} {spec : IndexSpec}
    (extended : present <+: grown) (satisfied : classify present spec = .satisfied) :
    classify grown spec = .satisfied := by
  obtain ⟨index, named, satisfies⟩ := (classify_eq_satisfied_iff present spec).mp satisfied
  exact (classify_eq_satisfied_iff grown spec).mpr
    ⟨index, extended.find?_eq_some named, satisfies⟩

/-- Two specifications with one name that are both there as declared are the same. -/
theorem eq_of_classify_eq_satisfied {present : List ExistingIndex} {first second : IndexSpec}
    (found : classify present first = .satisfied) (found' : classify present second = .satisfied)
    (same : first.name = second.name) : first = second := by
  obtain ⟨index, named, satisfies⟩ := (classify_eq_satisfied_iff present first).mp found
  obtain ⟨index', named', satisfies'⟩ := (classify_eq_satisfied_iff present second).mp found'
  rw [same, named', Option.some.injEq] at named
  subst named
  obtain ⟨paths, unique⟩ := (ExistingIndex.satisfies_iff index' first).mp satisfies
  obtain ⟨paths', unique'⟩ := (ExistingIndex.satisfies_iff index' second).mp satisfies'
  have fields := IndexSpec.directedPaths_inj.mp (paths.symm.trans paths')
  cases first
  cases second
  cases fields
  cases unique.symm.trans unique'
  rfl

end IndexPresence

/-- The specifications with names that are not taken, each name once. -/
def IndexSpec.unnamed (taken : List String) : List IndexSpec → List IndexSpec
  | [] => []
  | spec :: rest =>
      if spec.name ∈ taken then unnamed taken rest
      else spec :: unnamed (taken ++ [spec.name]) rest

namespace IndexSpec

/-- The specifications to be created come in their order. -/
theorem unnamed_sublist (taken : List String) (specs : List IndexSpec) :
    (unnamed taken specs).Sublist specs := by
  induction specs generalizing taken with
  | nil => exact List.Sublist.refl _
  | cons spec rest ih =>
      rw [unnamed]
      split
      · exact (ih taken).cons spec
      · exact (ih _).cons_cons spec

/-- A specification to be created has a name that is not taken. -/
theorem name_not_mem_of_mem_unnamed {taken : List String} {specs : List IndexSpec}
    {spec : IndexSpec} (member : spec ∈ unnamed taken specs) : spec.name ∉ taken := by
  induction specs generalizing taken with
  | nil => exact absurd member List.not_mem_nil
  | cons first rest ih =>
      rw [unnamed] at member
      split at member
      · exact ih member
      · next free =>
          rcases List.mem_cons.mp member with rfl | later
          · exact free
          · exact fun inside => ih later (List.mem_append_left _ inside)

/-- No two specifications to be created have one name. -/
theorem nodup_names_unnamed (taken : List String) (specs : List IndexSpec) :
    ((unnamed taken specs).map IndexSpec.name).Nodup := by
  induction specs generalizing taken with
  | nil => exact List.nodup_nil
  | cons first rest ih =>
      rw [unnamed]
      split
      · exact ih taken
      · refine List.nodup_cons.mpr ⟨fun repeated => ?_, ih _⟩
        -- The name of the first is taken when the rest is gone through.
        obtain ⟨spec, member, same⟩ := List.mem_map.mp repeated
        refine name_not_mem_of_mem_unnamed member ?_
        rw [same]
        exact List.mem_append_right _ (List.mem_singleton.mpr rfl)

/-- Where no two specifications share a name, all with new names are kept. -/
theorem mem_unnamed_iff {taken : List String} {specs : List IndexSpec}
    (apart : ∀ first ∈ specs, ∀ second ∈ specs, first.name = second.name → first = second)
    {spec : IndexSpec} (member : spec ∈ specs) :
    spec ∈ unnamed taken specs ↔ spec.name ∉ taken := by
  refine ⟨name_not_mem_of_mem_unnamed, fun free => ?_⟩
  induction specs generalizing taken with
  | nil => exact absurd member List.not_mem_nil
  | cons first rest ih =>
      have apart_rest : ∀ one ∈ rest, ∀ other ∈ rest, one.name = other.name → one = other :=
        fun one inside other inside' =>
          apart one (List.mem_cons_of_mem _ inside) other (List.mem_cons_of_mem _ inside')
      rw [unnamed]
      by_cases same : spec.name = first.name
      · obtain rfl := apart spec member first List.mem_cons_self same
        rw [if_neg free]
        exact List.mem_cons_self
      · have later : spec ∈ rest :=
          (List.mem_cons.mp member).resolve_left fun equal => same (congrArg _ equal)
        split
        · exact ih apart_rest later free
        · refine List.mem_cons_of_mem _ (ih apart_rest later fun inside => ?_)
          rcases List.mem_append.mp inside with earlier | here
          · exact free earlier
          · exact same (List.mem_singleton.mp here)

end IndexSpec

namespace MemoryCollection

open IndexPresence

/-- An index is not found by a name that none has. -/
theorem find?_name_eq_none_iff (indexes : List ExistingIndex) (name : String) :
    indexes.find? (·.name == name) = none ↔ name ∉ indexes.map ExistingIndex.name := by
  simp only [List.find?_eq_none, beq_iff_eq, List.mem_map, not_exists, not_and]

/-- Nothing stands in the way of an index: it is there as declared, or neither its name
nor its keys are taken and, if it is unique, no two documents have the same key. -/
def Admits (collection : MemoryCollection) (spec : IndexSpec) : Prop :=
  classify collection.indexes spec = .satisfied ∨
    classify collection.indexes spec = .missing ∧
      (spec.unique = true → (ExistingIndex.ofSpec spec).Separates collection.documents)

/-- A collection with the index of a specification, unless its name is taken. -/
def withIndex (collection : MemoryCollection) (spec : IndexSpec) : MemoryCollection :=
  if spec.name ∈ collection.indexes.map ExistingIndex.name then collection
  else { collection with indexes := collection.indexes ++ [ExistingIndex.ofSpec spec] }

/-- A collection with the indexes of specifications, in their order. -/
def withIndexes (collection : MemoryCollection) (specs : List IndexSpec) : MemoryCollection :=
  specs.foldl withIndex collection

/-- Nothing stands in the way of indexes that are created one after the other. -/
def AdmitsInOrder : MemoryCollection → List IndexSpec → Prop
  | _, [] => True
  | collection, spec :: rest =>
      collection.Admits spec ∧ (collection.withIndex spec).AdmitsInOrder rest

section One

variable {collection : MemoryCollection} {name : String} {spec : IndexSpec}

/-- A satisfied index is not created again. -/
theorem createIndex_of_satisfied
    (found : classify collection.indexes spec = .satisfied) :
    collection.createIndex name spec = .ok collection := by
  obtain ⟨index, named, satisfies⟩ := (classify_eq_satisfied_iff _ spec).mp found
  simp only [createIndex, named, satisfies, ↓reduceIte]

/-- A mismatched index is a conflict. -/
theorem createIndex_of_mismatched (name : String) {actual : ExistingIndex}
    (found : classify collection.indexes spec = .mismatched actual) :
    ∃ detail,
      collection.createIndex name spec = .error (.indexConflict name spec.name detail) := by
  rw [classify] at found
  rw [createIndex]
  cases named : collection.indexes.find? (·.name == spec.name) with
  | some index =>
      by_cases satisfies : index.satisfies spec = true
      · simp only [named, satisfies, ↓reduceIte, reduceCtorEq] at found
      · simp only [satisfies, Bool.false_eq_true, ↓reduceIte]
        exact ⟨_, rfl⟩
  | none =>
      cases keyed : collection.indexes.find? (spec.matchesKeys ·.keys) with
      | some index => exact ⟨_, rfl⟩
      | none => simp only [named, keyed, reduceCtorEq] at found

/-- A missing index is created, unless it is unique and the documents repeat a key. -/
theorem createIndex_of_missing (found : classify collection.indexes spec = .missing) :
    collection.createIndex name spec =
      if spec.unique && (ExistingIndex.ofSpec spec).repeatsKey [] collection.documents then
        .error (.duplicateKey name
          ("cannot build unique index " ++ spec.name ++ " over existing documents"))
      else .ok { collection with
        indexes := collection.indexes ++ [ExistingIndex.ofSpec spec] } := by
  obtain ⟨named, keyed⟩ := (classify_eq_missing_iff _ spec).mp found
  simp only [createIndex, named, keyed]
  rfl

/-- Adding a satisfied index changes nothing. -/
theorem withIndex_of_satisfied (found : classify collection.indexes spec = .satisfied) :
    collection.withIndex spec = collection := by
  obtain ⟨index, named, _⟩ := (classify_eq_satisfied_iff _ spec).mp found
  refine if_pos (Decidable.not_not.mp fun absent => ?_)
  rw [(find?_name_eq_none_iff _ _).mpr absent] at named
  cases named

/-- Adding a missing index puts it behind the others. -/
theorem withIndex_of_missing (found : classify collection.indexes spec = .missing) :
    collection.withIndex spec =
      { collection with indexes := collection.indexes ++ [ExistingIndex.ofSpec spec] } :=
  if_neg ((find?_name_eq_none_iff _ _).mp ((classify_eq_missing_iff _ spec).mp found).1)

/-- An index is admitted unless it is mismatched, or missing and unique over documents that repeat
a key. -/
theorem admits_iff (collection : MemoryCollection) (spec : IndexSpec) :
    collection.Admits spec ↔
      (∀ actual, classify collection.indexes spec ≠ .mismatched actual) ∧
        (spec.unique = true → classify collection.indexes spec = .missing →
          (ExistingIndex.ofSpec spec).Separates collection.documents) := by
  rw [Admits]
  cases classify collection.indexes spec with
  | satisfied => simp only [ne_eq, reduceCtorEq, not_false_eq_true, implies_true, true_or,
      false_implies, and_self]
  | mismatched actual =>
      simp only [reduceCtorEq, false_and, or_self, false_iff]
      exact fun clear => clear.1 actual rfl
  | missing => simp only [ne_eq, reduceCtorEq, not_false_eq_true, implies_true, false_or,
      true_and, true_implies]

/-- Creation succeeds on the indexes that are admitted, and adds those that are missing. -/
theorem createIndex_eq_ok_iff {result : MemoryCollection} :
    collection.createIndex name spec = .ok result ↔
      collection.Admits spec ∧ result = collection.withIndex spec := by
  cases found : classify collection.indexes spec with
  | satisfied =>
      rw [createIndex_of_satisfied found, withIndex_of_satisfied found, Except.ok.injEq]
      simp only [Admits, found, true_or, true_and]
      exact eq_comm
  | mismatched actual =>
      obtain ⟨detail, refused⟩ := createIndex_of_mismatched name found
      simp only [refused, Admits, found, reduceCtorEq, false_and, or_self]
  | missing =>
      rw [createIndex_of_missing found, withIndex_of_missing found]
      simp only [Admits, found, reduceCtorEq, true_and, false_or]
      by_cases unique : spec.unique = true
      · cases repeats : (ExistingIndex.ofSpec spec).repeatsKey [] collection.documents with
        | false =>
            have separated := (ExistingIndex.repeatsKey_nil_eq_false_iff _ _).mp repeats
            simp only [unique, Bool.and_false, Bool.false_eq_true, ↓reduceIte, Except.ok.injEq,
              separated, implies_true, true_and]
            exact eq_comm
        | true =>
            have crowded : ¬ (ExistingIndex.ofSpec spec).Separates collection.documents := by
              rw [← ExistingIndex.repeatsKey_nil_eq_false_iff, repeats]
              exact Bool.noConfusion
            simp only [unique, Bool.and_self, ↓reduceIte, reduceCtorEq, crowded, imp_false,
              not_true_eq_false, false_and]
      · simp only [unique, Bool.false_and, Bool.false_eq_true, ↓reduceIte, Except.ok.injEq,
          false_implies, true_and]
        exact eq_comm

/-- An admitted index is in its collection after its creation. -/
theorem createIndex_of_admits (admitted : collection.Admits spec) :
    collection.createIndex name spec = .ok (collection.withIndex spec) :=
  createIndex_eq_ok_iff.mpr ⟨admitted, rfl⟩

/-- An index is admitted, or its creation fails. -/
theorem admits_or_createIndex_eq_error (collection : MemoryCollection) (name : String)
    (spec : IndexSpec) :
    collection.Admits spec ∨ ∃ error, collection.createIndex name spec = .error error := by
  cases outcome : collection.createIndex name spec with
  | ok result => exact Or.inl (createIndex_eq_ok_iff.mp outcome).1
  | error error => exact Or.inr ⟨error, rfl⟩

/-- Adding an index leaves the documents alone. -/
theorem withIndex_documents (collection : MemoryCollection) (spec : IndexSpec) :
    (collection.withIndex spec).documents = collection.documents := by
  rw [withIndex]
  split <;> rfl

/-- The indexes that are there stay in front, in their order. -/
theorem indexes_prefix_withIndex (collection : MemoryCollection) (spec : IndexSpec) :
    collection.indexes <+: (collection.withIndex spec).indexes := by
  rw [withIndex]
  split
  · exact List.prefix_rfl
  · exact List.prefix_append _ _

/-- An admitted index is there as declared after its creation. -/
theorem classify_withIndex_self (distinct : spec.paths.Nodup)
    (admitted : collection.Admits spec) :
    classify (collection.withIndex spec).indexes spec = .satisfied := by
  rcases admitted with found | ⟨found, _⟩
  · rwa [withIndex_of_satisfied found]
  · obtain ⟨named, _⟩ := (classify_eq_missing_iff _ spec).mp found
    rw [withIndex_of_missing found, classify_eq_satisfied_iff]
    refine ⟨ExistingIndex.ofSpec spec, ?_, (ExistingIndex.ofSpec_satisfies_iff distinct _).mpr rfl⟩
    rw [List.find?_append, named, Option.none_or]
    exact List.find?_cons_of_pos (beq_self_eq_true _)

/-- A new index is in the way of those with its name only. -/
theorem classify_append_ofSpec {indexes : List ExistingIndex} {made : IndexSpec}
    (distinct : made.paths.Nodup) (differ : spec.name ≠ made.name) :
    classify (indexes ++ [ExistingIndex.ofSpec made]) spec = classify indexes spec := by
  have unnamed : ([ExistingIndex.ofSpec made] : List ExistingIndex).find?
      (·.name == spec.name) = none :=
    List.find?_cons_of_neg fun same => differ (beq_iff_eq.mp same).symm
  have unkeyed : ([ExistingIndex.ofSpec made] : List ExistingIndex).find?
      (spec.matchesKeys ·.keys) = none := by
    refine List.find?_cons_of_neg fun same => differ ?_
    rw [IndexSpec.name, (IndexSpec.matchesKeys_keys distinct spec).mp same, IndexSpec.name]
  rw [classify, List.find?_append, unnamed, Option.or_none, List.find?_append, unkeyed,
    Option.or_none, classify]

/-- An index that is created first leaves the others as admitted as before, except those
that have its name without being the same. -/
theorem admits_withIndex_iff {made : IndexSpec} (distinct : made.paths.Nodup)
    (admitted : collection.Admits made) :
    (collection.withIndex made).Admits spec ↔
      collection.Admits spec ∧ (spec.name = made.name → spec = made) := by
  have made_there := classify_withIndex_self distinct admitted
  constructor
  · intro admits
    by_cases same : spec.name = made.name
    -- The index just made is the one found under this name.
    · have present : classify (collection.withIndex made).indexes spec = .satisfied := by
        rcases admits with found | ⟨found, _⟩
        · exact found
        · obtain ⟨index, named, _⟩ := (classify_eq_satisfied_iff _ made).mp made_there
          have unnamed := ((classify_eq_missing_iff _ spec).mp found).1
          rw [same, named] at unnamed
          cases unnamed
      have equal := eq_of_classify_eq_satisfied present made_there same
      exact ⟨equal ▸ admitted, fun _ => equal⟩
    · refine ⟨?_, fun named => absurd named same⟩
      rcases admitted with found | ⟨found, _⟩
      · rwa [withIndex_of_satisfied found] at admits
      · rw [withIndex_of_missing found] at admits
        simpa only [Admits, classify_append_ofSpec distinct same] using admits
  · rintro ⟨admits, equal⟩
    by_cases same : spec.name = made.name
    · exact Or.inl (equal same ▸ made_there)
    · rcases admitted with found | ⟨found, _⟩
      · rwa [withIndex_of_satisfied found]
      · rw [withIndex_of_missing found]
        simpa only [Admits, classify_append_ofSpec distinct same] using admits

end One

section InOrder

variable {collection : MemoryCollection} {specs : List IndexSpec}

theorem withIndexes_cons (collection : MemoryCollection) (spec : IndexSpec)
    (rest : List IndexSpec) :
    collection.withIndexes (spec :: rest) = (collection.withIndex spec).withIndexes rest :=
  rfl

theorem withIndexes_append (collection : MemoryCollection) (first second : List IndexSpec) :
    collection.withIndexes (first ++ second) =
      (collection.withIndexes first).withIndexes second :=
  List.foldl_append

/-- Indexes are admitted in two parts, the second of them beside the first. -/
theorem admitsInOrder_append (collection : MemoryCollection) (first second : List IndexSpec) :
    collection.AdmitsInOrder (first ++ second) ↔
      collection.AdmitsInOrder first ∧ (collection.withIndexes first).AdmitsInOrder second := by
  induction first generalizing collection with
  | nil => exact (true_and _).symm ▸ Iff.rfl
  | cons spec rest ih =>
      rw [List.cons_append, AdmitsInOrder, AdmitsInOrder, withIndexes_cons, ih, and_assoc]

theorem withIndexes_documents (collection : MemoryCollection) (specs : List IndexSpec) :
    (collection.withIndexes specs).documents = collection.documents := by
  induction specs generalizing collection with
  | nil => rfl
  | cons spec rest ih => rw [withIndexes_cons, ih, withIndex_documents]

/-- Added indexes stand behind those that were there. -/
theorem indexes_prefix_withIndexes (collection : MemoryCollection) (specs : List IndexSpec) :
    collection.indexes <+: (collection.withIndexes specs).indexes := by
  induction specs generalizing collection with
  | nil => exact List.prefix_rfl
  | cons spec rest ih => exact (indexes_prefix_withIndex collection spec).trans (ih _)

/-- What is added are the indexes with new names, at the end and in their order. -/
theorem withIndexes_indexes (collection : MemoryCollection) (specs : List IndexSpec) :
    (collection.withIndexes specs).indexes = collection.indexes ++
      (IndexSpec.unnamed (collection.indexes.map ExistingIndex.name) specs).map
        ExistingIndex.ofSpec := by
  induction specs generalizing collection with
  | nil => rw [IndexSpec.unnamed, List.map_nil, List.append_nil, withIndexes, List.foldl_nil]
  | cons spec rest ih =>
      rw [withIndexes_cons, ih, IndexSpec.unnamed, withIndex]
      by_cases taken : spec.name ∈ collection.indexes.map ExistingIndex.name
      · rw [if_pos taken, if_pos taken]
      · rw [if_neg taken, if_neg taken, List.map_append, List.map_singleton, List.map_cons,
          List.append_assoc, List.singleton_append]
        rfl

/-- Indexes are created one after the other without a refusal exactly when each of them
is admitted at the start and no two different ones have the same name. -/
theorem admitsInOrder_iff (distinct : ∀ spec ∈ specs, spec.paths.Nodup) :
    collection.AdmitsInOrder specs ↔
      (∀ spec ∈ specs, collection.Admits spec) ∧
        ∀ first ∈ specs, ∀ second ∈ specs, first.name = second.name → first = second := by
  induction specs generalizing collection with
  | nil => simp only [AdmitsInOrder, List.not_mem_nil, false_implies, implies_true, and_self]
  | cons spec rest ih =>
      obtain ⟨proper, proper'⟩ := List.forall_mem_cons.mp distinct
      rw [AdmitsInOrder, ih proper', List.forall_mem_cons]
      constructor
      · rintro ⟨admitted, others, unique⟩
        have after := fun other member =>
          (admits_withIndex_iff proper admitted).mp (others other member)
        refine ⟨⟨admitted, fun other member => (after other member).1⟩, ?_⟩
        intro first inside second inside' same
        rcases List.mem_cons.mp inside with rfl | later
        · rcases List.mem_cons.mp inside' with rfl | later'
          · rfl
          · exact ((after second later').2 same.symm).symm
        · rcases List.mem_cons.mp inside' with rfl | later'
          · exact (after first later).2 same
          · exact unique first later second later' same
      · rintro ⟨⟨admitted, others⟩, unique⟩
        refine ⟨admitted, fun other member => ?_, fun first inside second inside' =>
          unique first (List.mem_cons_of_mem _ inside) second (List.mem_cons_of_mem _ inside')⟩
        exact (admits_withIndex_iff proper admitted).mpr ⟨others other member,
          unique other (List.mem_cons_of_mem _ member) spec List.mem_cons_self⟩

/-- Every one of the created indexes is there as declared at the end. -/
theorem classify_withIndexes (distinct : ∀ spec ∈ specs, spec.paths.Nodup)
    (admitted : collection.AdmitsInOrder specs) :
    ∀ spec ∈ specs, classify (collection.withIndexes specs).indexes spec = .satisfied := by
  induction specs generalizing collection with
  | nil => exact List.forall_mem_nil _
  | cons spec rest ih =>
      obtain ⟨proper, proper'⟩ := List.forall_mem_cons.mp distinct
      refine List.forall_mem_cons.mpr ⟨?_, ih proper' admitted.2⟩
      exact classify_eq_satisfied_of_prefix (indexes_prefix_withIndexes _ rest)
        (classify_withIndex_self proper admitted.1)

/-- Indexes that are created one after the other all go through, or there is a first one
that is refused. -/
theorem admitsInOrder_or_refused (collection : MemoryCollection) (name : String)
    (specs : List IndexSpec) :
    collection.AdmitsInOrder specs ∨
      ∃ earlier spec later error, specs = earlier ++ spec :: later ∧
        collection.AdmitsInOrder earlier ∧
          (collection.withIndexes earlier).createIndex name spec = .error error := by
  induction specs generalizing collection with
  | nil => exact Or.inl trivial
  | cons spec rest ih =>
      rcases admits_or_createIndex_eq_error collection name spec with admitted | ⟨error, refused⟩
      · rcases ih (collection.withIndex spec) with others |
          ⟨earlier, stuck, later, error, split, before, refused⟩
        · exact Or.inl ⟨admitted, others⟩
        · exact Or.inr ⟨spec :: earlier, stuck, later, error, by rw [split, List.cons_append],
            ⟨admitted, before⟩, refused⟩
      · exact Or.inr ⟨[], spec, rest, error, rfl, trivial, refused⟩

/-- Where all indexes are there as declared, nothing is in their way and nothing is added. -/
theorem admitsInOrder_of_satisfied
    (found : ∀ spec ∈ specs, classify collection.indexes spec = .satisfied) :
    collection.AdmitsInOrder specs ∧ collection.withIndexes specs = collection := by
  induction specs with
  | nil => exact ⟨trivial, rfl⟩
  | cons spec rest ih =>
      obtain ⟨here, others⟩ := List.forall_mem_cons.mp found
      rw [AdmitsInOrder, withIndexes_cons, withIndex_of_satisfied here]
      exact ⟨⟨Or.inl here, (ih others).1⟩, (ih others).2⟩

end InOrder

end MemoryCollection

end SchemaBootstrap

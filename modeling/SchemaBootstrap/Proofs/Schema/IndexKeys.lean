import SchemaBootstrap.Schema.Index

/-! # Key documents and the fields they stand for

A key document is read pair by pair as a path with the direction that the value
stands for (`Document.readKeys`). A specification matches exactly the documents
that read as its own fields (`IndexSpec.matchesKeys_iff`). Its own key document
reads so when it repeats no path, and then an index made from it satisfies this
specification and no other one (`ExistingIndex.ofSpec_satisfies_iff`).
-/

namespace SchemaBootstrap

/-- The direction of an order is read back as the order. -/
theorem SortOrder.ofBson?_direction (order : SortOrder) :
    SortOrder.ofBson? (.int32 order.direction) = some order := by
  cases order <;> rfl

/-- The paths of a key document, each with the direction that its value stands for. -/
def Document.readKeys (keys : Document) : List (String × Option SortOrder) :=
  keys.map fun pair => (pair.1, SortOrder.ofBson? pair.2)

/-- The paths of a specification, each with its direction. -/
def IndexSpec.directedPaths (spec : IndexSpec) : List (String × Option SortOrder) :=
  spec.fields.map fun field => (field.path, some field.order)

namespace Document

/-- A new field is put behind the others. -/
theorem put_of_not_mem {document : Document} {name : String} (value : Bson)
    (fresh : name ∉ document.names) : document.put name value = document ++ [(name, value)] := by
  induction document with
  | nil => rfl
  | cons first rest ih =>
      obtain ⟨differ, fresh⟩ : ¬ name = first.1 ∧ name ∉ names rest := by
        simpa only [names, List.map_cons, List.mem_cons, not_or] using fresh
      rw [put, if_neg (Ne.symm differ), ih fresh, List.cons_append]

/-- Fields of distinct names are put one behind the other. -/
theorem foldl_put_of_nodup (document fields : Document)
    (distinct : (document ++ fields).names.Nodup) :
    fields.foldl (fun document field => put document field.1 field.2) document =
      document ++ fields := by
  induction fields generalizing document with
  | nil => rw [List.append_nil]; rfl
  | cons first rest ih =>
      have fresh : first.1 ∉ document.names := by
        rw [names, List.map_append, List.nodup_append] at distinct
        intro member
        exact distinct.2.2 _ member _ List.mem_cons_self rfl
      have moved : document ++ first :: rest = document ++ [first] ++ rest := by
        rw [List.append_assoc]; rfl
      rw [List.foldl_cons, put_of_not_mem _ fresh, ih _ (moved ▸ distinct), ← moved]

/-- Fields under different names are put down as they are. -/
theorem ofFields_of_nodup {fields : Document} (distinct : fields.names.Nodup) :
    ofFields fields = fields :=
  foldl_put_of_nodup [] fields distinct

/-- Putting a field adds no name but its own. -/
theorem mem_names_put {document : Document} {name other : String} {value : Bson}
    (member : other ∈ (document.put name value).names) :
    other = name ∨ other ∈ document.names := by
  induction document with
  | nil => exact Or.inl (List.mem_singleton.mp member)
  | cons first rest ih =>
      rw [put] at member
      split at member
      · rcases List.mem_cons.mp member with same | later
        · exact Or.inl same
        · exact Or.inr (List.mem_cons_of_mem _ later)
      · rcases List.mem_cons.mp member with same | later
        · exact Or.inr (List.mem_cons.mpr (Or.inl same))
        · exact (ih later).imp_right (List.mem_cons_of_mem _)

/-- Putting a field keeps the names distinct. -/
theorem nodup_names_put {document : Document} (distinct : document.names.Nodup) (name : String)
    (value : Bson) : (document.put name value).names.Nodup := by
  induction document with
  | nil => exact List.pairwise_singleton _ name
  | cons first rest ih =>
      obtain ⟨fresh, others⟩ := List.nodup_cons.mp distinct
      rw [put]
      split
      · next same => exact List.nodup_cons.mpr ⟨same ▸ fresh, others⟩
      · next differ =>
          refine List.nodup_cons.mpr ⟨fun repeated => ?_, ih others⟩
          rcases mem_names_put repeated with same | later
          · exact differ same
          · exact fresh later

/-- Putting fields one after the other leaves one field for each name. -/
theorem nodup_names_ofFields (fields : List (String × Bson)) : (ofFields fields).names.Nodup := by
  have step : ∀ document : Document, document.names.Nodup →
      (fields.foldl (fun document field => put document field.1 field.2) document).names.Nodup := by
    induction fields with
    | nil => exact fun document distinct => distinct
    | cons field rest ih =>
        intro document distinct
        exact ih _ (nodup_names_put distinct field.1 field.2)
  exact step [] List.nodup_nil

end Document

namespace IndexSpec

/-- A pair of keys stands for a field if it has its path and order. -/
theorem matchesField_iff (pair : String × Bson) (field : IndexField) :
    matchesField pair field = true ↔
      (pair.1, SortOrder.ofBson? pair.2) = (field.path, some field.order) := by
  simp only [matchesField, Bool.and_eq_true, beq_iff_eq, Prod.mk.injEq]

/-- A specification matches the key documents that read as its fields. -/
theorem matchesKeys_iff (spec : IndexSpec) (keys : Document) :
    spec.matchesKeys keys = true ↔ keys.readKeys = spec.directedPaths := by
  obtain ⟨fields, unique⟩ := spec
  simp only [matchesKeys, Document.readKeys, directedPaths]
  induction keys generalizing fields with
  | nil => cases fields <;> simp
  | cons pair rest ih =>
      cases fields with
      | nil => simp
      | cons field fields =>
          have tail := ih fields
          simp only [Bool.and_eq_true, beq_iff_eq] at tail
          simp only [List.length_cons, List.zip_cons_cons, List.all_cons, Bool.and_eq_true,
            beq_iff_eq, Nat.add_right_cancel_iff, matchesField_iff, List.map_cons,
            List.cons.injEq, ← tail]
          exact and_left_comm

/-- Directed paths determine the fields. -/
theorem directedPaths_inj {first second : IndexSpec} :
    first.directedPaths = second.directedPaths ↔ first.fields = second.fields := by
  refine ⟨fun same => ?_, fun same => by rw [directedPaths, same, directedPaths]⟩
  refine (List.map_inj_right fun one other equal => ?_).mp same
  obtain ⟨path, order⟩ := Prod.mk.inj equal
  cases one
  cases other
  cases path
  cases order
  rfl

/-- The key document of a specification without repeated paths reads as its fields. -/
theorem readKeys_keys {spec : IndexSpec} (distinct : spec.paths.Nodup) :
    spec.keys.readKeys = spec.directedPaths := by
  have names : Document.names
      (spec.fields.map fun field => (field.path, Bson.int32 field.order.direction)) =
        spec.paths := by
    simp only [Document.names, paths, List.map_map, Function.comp_def]
  rw [keys, Document.ofFields_of_nodup (names ▸ distinct)]
  simp only [Document.readKeys, directedPaths, List.map_map, Function.comp_def,
    SortOrder.ofBson?_direction]

/-- The keys that are made from distinct paths match the same fields only. -/
theorem matchesKeys_keys {made : IndexSpec} (distinct : made.paths.Nodup) (spec : IndexSpec) :
    spec.matchesKeys made.keys = true ↔ spec.fields = made.fields := by
  rw [matchesKeys_iff, readKeys_keys distinct, directedPaths_inj]
  exact eq_comm

end IndexSpec

namespace ExistingIndex

/-- What it means that an index is as a specification says. -/
theorem satisfies_iff (index : ExistingIndex) (spec : IndexSpec) :
    index.satisfies spec = true ↔
      index.keys.readKeys = spec.directedPaths ∧ index.unique = spec.unique := by
  rw [satisfies, Bool.and_eq_true, beq_iff_eq, IndexSpec.matchesKeys_iff, and_comm]

/-- The index made from a specification without repeated paths satisfies this
specification and no other one. -/
theorem ofSpec_satisfies_iff {made : IndexSpec} (distinct : made.paths.Nodup)
    (spec : IndexSpec) : (ofSpec made).satisfies spec = true ↔ made = spec := by
  rw [satisfies_iff, ofSpec, IndexSpec.readKeys_keys distinct, IndexSpec.directedPaths_inj]
  refine ⟨fun same => ?_, fun same => same ▸ ⟨rfl, rfl⟩⟩
  cases made
  cases spec
  cases same.1
  cases same.2
  rfl

/-- An index that satisfies a specification has keys at its paths. -/
theorem names_keys_of_satisfies {index : ExistingIndex} {spec : IndexSpec}
    (satisfies : index.satisfies spec = true) : index.keys.names = spec.paths := by
  have reads := ((satisfies_iff index spec).mp satisfies).1
  have paths := congrArg (List.map Prod.fst) reads
  rw [Document.readKeys, IndexSpec.directedPaths, List.map_map, List.map_map] at paths
  exact paths

/-- An index satisfies the specification that it is made from when that repeats no path:
otherwise its key document is too short. -/
theorem ofSpec_satisfies_self_iff (spec : IndexSpec) :
    (ofSpec spec).satisfies spec = true ↔ spec.paths.Nodup := by
  constructor
  · intro satisfies
    rw [← names_keys_of_satisfies satisfies]
    exact Document.nodup_names_ofFields _
  · intro distinct
    exact (ofSpec_satisfies_iff distinct spec).mpr rfl

end ExistingIndex

end SchemaBootstrap

import SchemaBootstrap.Proofs.Config.TidyLayers

/-! # The leaf that a variable sets

The layer of the environment is merged from those of the variables. A variable that is named
after a leaf sets it, if no other variable is named after the leaf, something above it or
something below it (`Variable.leaf?_ofVariables`).
-/

namespace SchemaBootstrap

namespace Variable

/-- A variable has nothing to do with the value at a path: what it is named after is neither
above nor below. -/
def Apart (path : List String) (other : Variable) : Prop :=
  ∀ path', other.path? = some path' → ¬ path' <+: path ∧ ¬ path <+: path'

variable {name leaf : String}

/-- A variable that is set apart from a leaf says nothing about it. -/
theorem layer_of_apart {other : Variable} (apart : other.Apart [name, leaf]) :
    other.layer.Grouped name ∧ other.layer.leaf? name leaf = none := by
  unfold layer
  split
  · next first rest found =>
      obtain ⟨notAbove, notBelow⟩ := apart (first :: rest) found
      by_cases same : name = first
      · subst same
        -- The name of the section alone would stand above the leaf.
        cases rest with
        | nil => exact absurd ⟨[leaf], rfl⟩ notAbove
        | cons second more =>
            have differ : leaf ≠ second := by
              rintro rfl
              exact notBelow ⟨more, rfl⟩
            have here : List.lookup name
                [(name, nested (VariableValue.ofText other.value) (second :: more))] =
                some (.group [(second, nested (VariableValue.ofText other.value) more)]) :=
              (Catalog.lookup_cons _ _ _).trans (if_pos rfl)
            refine ⟨.of_group here, ?_⟩
            rw [Layer.leaf?_of_group here, Catalog.lookup_cons, if_neg differ, List.lookup_nil]
      · have missing : List.lookup name
            [(first, nested (VariableValue.ofText other.value) rest)] = none :=
          (Catalog.lookup_cons _ _ _).trans (if_neg same)
        exact ⟨.of_none missing, Layer.leaf?_of_none missing leaf⟩
  · exact ⟨.of_none rfl, Layer.leaf?_of_none rfl leaf⟩

/-- A variable that is set for a leaf gives it its value. -/
theorem layer_of_path {source : Variable} (path : source.path? = some [name, leaf]) :
    source.layer.Grouped name ∧
      source.layer.leaf? name leaf = some (VariableValue.ofText source.value) := by
  have here : List.lookup name source.layer =
      some (.group [(leaf, VariableValue.ofText source.value)]) := by
    unfold layer
    rw [path]
    exact (Catalog.lookup_cons _ _ _).trans (if_pos rfl)
  refine ⟨.of_group here, ?_⟩
  rw [Layer.leaf?_of_group here, Catalog.lookup_cons, if_pos rfl]

/-- A variable sets the leaf that it alone is named after. -/
theorem leaf?_ofVariables {before after : List Variable} {source : Variable}
    (path : source.path? = some [name, leaf])
    (apart : ∀ other ∈ before ++ after, other.Apart [name, leaf]) :
    (Layer.ofVariables (before ++ source :: after)).leaf? name leaf =
      some (VariableValue.ofText source.value) := by
  obtain ⟨grouped, value⟩ := layer_of_path path
  unfold Layer.ofVariables
  rw [List.map_append, List.map_cons]
  refine (Layer.leaf?_merged_of_alone ?_ ?_ ?_).trans value
  · rw [← List.map_cons, ← List.map_append]
    exact List.forall_mem_map.mpr fun other _ => other.tidy_layer
  · rw [← List.map_cons, ← List.map_append]
    refine List.forall_mem_map.mpr fun other member => ?_
    obtain member | member := List.mem_append.mp member
    · exact (layer_of_apart (apart other (List.mem_append_left _ member))).1
    · obtain rfl | member := List.mem_cons.mp member
      · exact grouped
      · exact (layer_of_apart (apart other (List.mem_append_right _ member))).1
  · rw [← List.map_append]
    exact List.forall_mem_map.mpr fun other member => (layer_of_apart (apart other member)).2

end Variable

end SchemaBootstrap

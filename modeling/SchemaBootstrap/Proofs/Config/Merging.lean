import SchemaBootstrap.Config.Origin
import SchemaBootstrap.Proofs.Config.Trimming
import Mathlib.Data.List.Induction

/-! # Merged layers, leaf by leaf

A merge is looked at through the values under names (`LayerValue.lookup_mergeMembers`), which
takes layers whose names are in order (`Layer.Tidy`). Where every layer that has a section
gives a group for it, the leaf of a merged layer is that of the highest layer with such a
leaf (`Layer.leaf?_merged`), up to the members that a leaf would have if it were a group
itself.
-/

namespace SchemaBootstrap

namespace LayerValue

/-- What becomes of a value above one that may be missing. -/
def onto (value : LayerValue) : Option LayerValue → LayerValue
  | some low => low.merge value
  | none => value

/-- What becomes of two values, each of which may be missing. -/
def overlaid (low : Option LayerValue) : Option LayerValue → Option LayerValue
  | some value => some (value.onto low)
  | none => low

theorem mergeMembers_cons (low : List (String × LayerValue)) (entry : String × LayerValue)
    (rest : List (String × LayerValue)) :
    mergeMembers low (entry :: rest) =
      mergeMembers (Catalog.put entry.1 (entry.2.onto (low.lookup entry.1)) low) rest := by
  obtain ⟨name, value⟩ := entry
  rw [mergeMembers]
  cases low.lookup name <;> rfl

/-- A group is merged into a group member by member. -/
theorem merge_group (members above : List (String × LayerValue)) :
    (group members).merge (group above) = group (mergeMembers members above) := by
  rw [merge]

/-- Two groups are merged; in all other cases the higher value stays. -/
theorem merge_cases (low high : LayerValue) :
    (∃ members above, low = group members ∧ high = group above) ∨ low.merge high = high := by
  cases high with
  | group above =>
      cases low with
      | group members => exact .inl ⟨members, above, rfl, rfl⟩
      | _ => exact .inr (by simp [merge])
  | _ => exact .inr (by simp [merge])

/-- Apart from groups, a merged value is the higher one. -/
theorem flat_merge (low high : LayerValue) : (low.merge high).flat = high.flat := by
  obtain ⟨members, above, rfl, rfl⟩ | same := merge_cases low high
  · rw [merge_group]
    rfl
  · rw [same]

/-- Apart from groups, a value is not changed by what is below it. -/
theorem flat_onto (value : LayerValue) (low : Option LayerValue) :
    (value.onto low).flat = value.flat := by
  cases low with
  | none => rfl
  | some low => exact flat_merge low value

/-- Apart from groups, the higher of two values counts, if there is one. -/
theorem flat_overlaid (low high : Option LayerValue) :
    (overlaid low high).map flat = (high.or low).map flat := by
  cases high with
  | none => rfl
  | some value => exact congrArg some (flat_onto value low)

variable {low high : List (String × LayerValue)}

/-- Members remain sorted when others are merged into them. -/
theorem sorted_mergeMembers (sorted : Catalog.Sorted low) :
    Catalog.Sorted (mergeMembers low high) := by
  induction high generalizing low with
  | nil => rw [mergeMembers]; exact sorted
  | cons entry rest ih =>
      rw [mergeMembers_cons]
      exact ih (Catalog.sorted_put _ _ sorted)

/-- The value under a name is the higher one, above the lower one if both are there. -/
theorem lookup_mergeMembers (sorted : Catalog.Sorted high) (name : String) :
    (mergeMembers low high).lookup name = overlaid (low.lookup name) (high.lookup name) := by
  induction high generalizing low with
  | nil => rw [mergeMembers]; rfl
  | cons entry rest ih =>
      have tail := List.pairwise_cons.mp sorted
      rw [mergeMembers_cons, ih tail.2, Catalog.lookup_put, Catalog.lookup_cons]
      by_cases same : name = entry.1
      · subst same
        -- A name in order occurs once, so nothing is merged onto its value any more.
        rw [Catalog.lookup_eq_none tail.1, if_pos rfl, if_pos rfl]
        rfl
      · rw [if_neg same, if_neg same]

def isGroup : LayerValue → Bool
  | .group _ => true
  | _ => false

/-- The members of a group are in order. -/
def Tidy (value : LayerValue) : Prop :=
  ∀ members, value = .group members → Catalog.Sorted members

/-- A value that is no group is tidy. -/
theorem tidy_of_not_group {value : LayerValue} (other : value.isGroup = false) :
    value.Tidy := by
  rintro members rfl
  cases other

theorem tidy_group {members : List (String × LayerValue)} (sorted : Catalog.Sorted members) :
    (group members).Tidy := by
  intro members' same
  cases same
  exact sorted

theorem tidy_group_singleton (name : String) (value : LayerValue) :
    (group [(name, value)]).Tidy :=
  tidy_group (List.pairwise_singleton _ _)

/-- Tidy values are merged into a tidy one. -/
theorem tidy_merge {low high : LayerValue} (tidy : low.Tidy) (tidy' : high.Tidy) :
    (low.merge high).Tidy := by
  obtain ⟨below, above, rfl, rfl⟩ | same := merge_cases low high
  · intro members merged
    rw [merge_group] at merged
    cases merged
    exact sorted_mergeMembers (tidy below rfl)
  · rw [same]
    exact tidy'

end LayerValue

namespace Layer

/-- The names of a layer are in order, and so are those of its groups. -/
structure Tidy (layer : Layer) : Prop where
  sorted : Catalog.Sorted layer
  values : ∀ name value, List.lookup name layer = some value → value.Tidy

theorem tidy_nil : Tidy [] where
  sorted := .nil
  values := by
    intro name value found
    cases found

theorem tidy_singleton {value : LayerValue} (name : String) (tidy : value.Tidy) :
    Tidy [(name, value)] where
  sorted := List.pairwise_singleton _ _
  values := by
    intro other value' found
    rw [Catalog.lookup_cons] at found
    split at found
    · cases found
      exact tidy
    · cases found

variable {low high layer : Layer}

/-- A layer stays tidy when a tidy value is put into it. -/
theorem Tidy.put (tidy : layer.Tidy) {value : LayerValue} (name : String)
    (tidy' : value.Tidy) : Tidy (Catalog.put name value layer) where
  sorted := Catalog.sorted_put name value tidy.sorted
  values := by
    intro other value' found
    rw [Catalog.lookup_put] at found
    split at found
    · cases found
      exact tidy'
    · exact tidy.values other value' found

/-- Tidy layers are merged into a tidy one. -/
theorem Tidy.mergeMembers (tidy : low.Tidy) (tidy' : high.Tidy) :
    Tidy (LayerValue.mergeMembers low high) where
  sorted := LayerValue.sorted_mergeMembers tidy.sorted
  values := by
    intro name value found
    rw [LayerValue.lookup_mergeMembers tidy'.sorted] at found
    cases above : List.lookup name high with
    | none =>
        rw [above] at found
        exact tidy.values name value found
    | some value' =>
        rw [above] at found
        cases below : List.lookup name low with
        | none =>
            rw [below] at found
            cases found
            exact tidy'.values name value' above
        | some old =>
            rw [below] at found
            cases found
            exact LayerValue.tidy_merge (tidy.values name old below)
              (tidy'.values name value' above)

/-- The highest layer is merged last. -/
theorem merged_concat (layers : List Layer) (highest : Layer) :
    merged (layers ++ [highest]) = LayerValue.mergeMembers (merged layers) highest :=
  List.foldl_append

/-- Merged layers are tidy if each of them is. -/
theorem tidy_merged {layers : List Layer} (tidy : ∀ layer ∈ layers, Tidy layer) :
    (merged layers).Tidy := by
  induction layers using List.reverseRecOn with
  | nil => exact tidy_nil
  | append_singleton layers highest ih =>
      obtain ⟨below, above⟩ := List.forall_mem_append.mp tidy
      rw [merged_concat]
      exact (ih below).mergeMembers (List.forall_mem_singleton.mp above)

/-- A layer that has a value under a name has a group there. -/
def Grouped (name : String) (layer : Layer) : Prop :=
  ∀ value, List.lookup name layer = some value → ∃ members, value = .group members

/-- The value of a leaf in a section. -/
def leaf? (layer : Layer) (name leaf : String) : Option LayerValue :=
  (LayerValue.group layer).at? [name, leaf]

variable {name : String}

/-- The leaves of a section are the members of its group. -/
theorem leaf?_of_group {members : List (String × LayerValue)}
    (found : List.lookup name layer = some (.group members)) (leaf : String) :
    layer.leaf? name leaf = members.lookup leaf := by
  unfold leaf?
  rw [LayerValue.at?, found]
  change (members.lookup leaf).bind some = _
  cases members.lookup leaf <;> rfl

/-- A missing section has no leaf. -/
theorem leaf?_of_none (missing : List.lookup name layer = none) (leaf : String) :
    layer.leaf? name leaf = none := by
  unfold leaf?
  rw [LayerValue.at?, missing]
  rfl

theorem Grouped.of_group {members : List (String × LayerValue)}
    (found : List.lookup name layer = some (.group members)) : layer.Grouped name := by
  intro value found'
  rw [found] at found'
  cases found'
  exact ⟨members, rfl⟩

theorem Grouped.of_none (missing : List.lookup name layer = none) : layer.Grouped name := by
  intro value found
  rw [missing] at found
  cases found

/-- A grouped section is missing or a group. -/
theorem Grouped.cases (grouped : layer.Grouped name) :
    List.lookup name layer = none ∨
      ∃ members, List.lookup name layer = some (.group members) := by
  cases found : List.lookup name layer with
  | none => exact .inl rfl
  | some value =>
      obtain ⟨members, rfl⟩ := grouped value found
      exact .inr ⟨members, rfl⟩

/-- What two layers have in a section, and what their merge has there. -/
theorem lookup_mergeMembers_of_grouped (tidy : high.Tidy) (below : low.Grouped name)
    (above : high.Grouped name) :
    (List.lookup name low = none ∧ List.lookup name high = none ∧
      (LayerValue.mergeMembers low high).lookup name = none) ∨
    ∃ members, (LayerValue.mergeMembers low high).lookup name = some (.group members) ∧
      ∀ leaf, members.lookup leaf =
        LayerValue.overlaid (low.leaf? name leaf) (high.leaf? name leaf) := by
  rw [LayerValue.lookup_mergeMembers tidy.sorted]
  obtain missing | ⟨members, found⟩ := below.cases <;>
    obtain missing' | ⟨members', found'⟩ := above.cases
  · exact .inl ⟨missing, missing', by rw [missing, missing']; rfl⟩
  · refine .inr ⟨members', by rw [missing, found']; rfl, fun leaf => ?_⟩
    rw [leaf?_of_none missing, leaf?_of_group found']
    cases members'.lookup leaf <;> rfl
  · refine .inr ⟨members, by rw [found, missing']; rfl, fun leaf => ?_⟩
    rw [leaf?_of_group found, leaf?_of_none missing']
    rfl
  · refine .inr ⟨LayerValue.mergeMembers members members', ?_, fun leaf => ?_⟩
    · rw [found, found']
      exact congrArg some (LayerValue.merge_group members members')
    · have sorted := tidy.values name _ found' members' rfl
      rw [leaf?_of_group found, leaf?_of_group found', LayerValue.lookup_mergeMembers sorted]

/-- Merging layers keeps a section grouped. -/
theorem Grouped.mergeMembers (tidy : high.Tidy) (below : low.Grouped name)
    (above : high.Grouped name) : Grouped name (LayerValue.mergeMembers low high) := by
  obtain ⟨-, -, missing⟩ | ⟨members, found, -⟩ := lookup_mergeMembers_of_grouped tidy below above
  · exact .of_none missing
  · exact .of_group found

/-- A leaf of merged layers is the higher one laid over the lower one. -/
theorem leaf?_mergeMembers (tidy : high.Tidy) (below : low.Grouped name)
    (above : high.Grouped name) (leaf : String) :
    leaf? (LayerValue.mergeMembers low high) name leaf =
      LayerValue.overlaid (low.leaf? name leaf) (high.leaf? name leaf) := by
  obtain ⟨missing, missing', nothing⟩ | ⟨members, found, same⟩ :=
    lookup_mergeMembers_of_grouped tidy below above
  · rw [leaf?_of_none nothing, leaf?_of_none missing, leaf?_of_none missing']
    rfl
  · rw [leaf?_of_group found, same]

section Run

variable {layers : List Layer} (tidy : ∀ layer ∈ layers, Tidy layer)
  (grouped : ∀ layer ∈ layers, Grouped name layer)

include tidy grouped

/-- A section stays grouped in all layers merged. -/
theorem grouped_merged : (merged layers).Grouped name := by
  induction layers using List.reverseRecOn with
  | nil => exact .of_none rfl
  | append_singleton layers highest ih =>
      obtain ⟨tidyBelow, tidyAbove⟩ := List.forall_mem_append.mp tidy
      obtain ⟨below, above⟩ := List.forall_mem_append.mp grouped
      rw [merged_concat]
      exact Grouped.mergeMembers (List.forall_mem_singleton.mp tidyAbove)
        (ih tidyBelow below) (List.forall_mem_singleton.mp above)

end Run

/-- The leaf of the highest layer lies over that of all the others. -/
theorem leaf?_merged_concat {layers : List Layer} {highest : Layer}
    (tidy : ∀ layer ∈ layers ++ [highest], Tidy layer)
    (grouped : ∀ layer ∈ layers ++ [highest], Grouped name layer) (leaf : String) :
    (merged (layers ++ [highest])).leaf? name leaf =
      LayerValue.overlaid ((merged layers).leaf? name leaf) (highest.leaf? name leaf) := by
  obtain ⟨tidyBelow, tidyAbove⟩ := List.forall_mem_append.mp tidy
  obtain ⟨below, above⟩ := List.forall_mem_append.mp grouped
  rw [merged_concat]
  exact leaf?_mergeMembers (List.forall_mem_singleton.mp tidyAbove)
    (grouped_merged tidyBelow below) (List.forall_mem_singleton.mp above) leaf

section Run

variable {layers : List Layer} (tidy : ∀ layer ∈ layers, Tidy layer)
  (grouped : ∀ layer ∈ layers, Grouped name layer)

include tidy grouped

/-- The leaf of merged layers is that of the highest layer which has the leaf. -/
theorem leaf?_merged (leaf : String) :
    ((merged layers).leaf? name leaf).map LayerValue.flat =
      (layers.reverse.findSome? fun layer => layer.leaf? name leaf).map LayerValue.flat := by
  induction layers using List.reverseRecOn with
  | nil => rfl
  | append_singleton layers highest ih =>
      rw [leaf?_merged_concat tidy grouped, LayerValue.flat_overlaid, List.reverse_append,
        List.reverse_singleton, List.singleton_append, List.findSome?_cons]
      cases highest.leaf? name leaf with
      | some value => rfl
      | none =>
          exact ih (List.forall_mem_append.mp tidy).1 (List.forall_mem_append.mp grouped).1

/-- A leaf that no layer has is missing in all of them merged. -/
theorem leaf?_merged_of_none {leaf : String}
    (missing : ∀ layer ∈ layers, leaf? layer name leaf = none) :
    (merged layers).leaf? name leaf = none := by
  have highest := leaf?_merged tidy grouped leaf
  have nowhere : (layers.reverse.findSome? fun layer => layer.leaf? name leaf) = none :=
    List.findSome?_eq_none_iff.mpr fun layer member => missing layer (List.mem_reverse.mp member)
  rw [nowhere] at highest
  exact Option.map_eq_none_iff.mp highest

end Run

/-- The leaf of merged layers is that of the only layer which has the leaf. -/
theorem leaf?_merged_of_alone {before after : List Layer} {layer : Layer} {leaf : String}
    (tidy : ∀ each ∈ before ++ layer :: after, Tidy each)
    (grouped : ∀ each ∈ before ++ layer :: after, Grouped name each)
    (others : ∀ each ∈ before ++ after, leaf? each name leaf = none) :
    (merged (before ++ layer :: after)).leaf? name leaf = layer.leaf? name leaf := by
  induction after using List.reverseRecOn with
  | nil =>
      rw [List.append_nil] at others
      have below := leaf?_merged_of_none (List.forall_mem_append.mp tidy).1
        (List.forall_mem_append.mp grouped).1 others
      rw [leaf?_merged_concat tidy grouped, below]
      cases layer.leaf? name leaf <;> rfl
  | append_singleton after highest ih =>
      rw [← List.cons_append, ← List.append_assoc] at tidy grouped ⊢
      rw [← List.append_assoc] at others
      obtain ⟨othersBelow, missing⟩ := List.forall_mem_append.mp others
      rw [leaf?_merged_concat tidy grouped, List.forall_mem_singleton.mp missing]
      exact ih (List.forall_mem_append.mp tidy).1 (List.forall_mem_append.mp grouped).1 othersBelow

end Layer

end SchemaBootstrap

import SchemaBootstrap.Schema.Definition

/-! # What a valid definition promises

A definition has no violation exactly when no name is blank, collection names are
pairwise different, and every index has fields and pairwise different paths
(`SchemaDefinition.violation?_eq_none_iff`). The part that a store depends on is that
the collections do not get into each other's way (`Declarable`).
-/

namespace SchemaBootstrap

namespace IndexSpec

/-- An index covers at least one field and no path twice. -/
def Proper (spec : IndexSpec) : Prop :=
  spec.fields ≠ [] ∧ spec.paths.Nodup

end IndexSpec

/-- Collections have different names, and their indexes repeat no path. -/
structure Declarable (collections : List CollectionSpec) : Prop where
  names : (collections.map CollectionSpec.name).Nodup
  paths : ∀ declared ∈ collections, ∀ spec ∈ declared.indexes, spec.paths.Nodup

namespace SchemaDefinition

/-- No entry is repeated if they are distinct and new. -/
theorem firstRepeated_eq_none_iff (seen entries : List String) :
    firstRepeated seen entries = none ↔
      entries.Nodup ∧ ∀ entry ∈ entries, entry ∉ seen := by
  induction entries generalizing seen with
  | nil => simp only [firstRepeated, List.nodup_nil, List.not_mem_nil, false_implies,
      implies_true, and_self]
  | cons entry rest ih =>
      simp only [firstRepeated, List.contains_iff_mem, List.nodup_cons, List.forall_mem_cons]
      by_cases repeated : entry ∈ seen
      · simp only [repeated, ↓reduceIte, reduceCtorEq, not_true_eq_false, false_and, and_false]
      · simp only [repeated, ↓reduceIte, ih, List.mem_cons, not_or, not_false_eq_true, true_and]
        constructor
        · rintro ⟨distinct, others⟩
          exact ⟨⟨fun member => (others entry member).1 rfl, distinct⟩,
            fun other member => (others other member).2⟩
        · rintro ⟨⟨fresh, distinct⟩, others⟩
          exact ⟨distinct, fun other member =>
            ⟨fun same => fresh (same ▸ member), others other member⟩⟩

/-- Indexes without a violation are proper. -/
theorem indexViolation?_eq_none_iff (collection : String) (indexes : List IndexSpec) :
    indexViolation? collection indexes = none ↔ ∀ spec ∈ indexes, spec.Proper := by
  induction indexes with
  | nil => simp only [indexViolation?, List.not_mem_nil, false_implies, implies_true]
  | cons spec rest ih =>
      simp only [indexViolation?, List.isEmpty_iff, List.forall_mem_cons]
      by_cases empty : spec.fields = []
      · simp only [empty, ↓reduceIte, reduceCtorEq, IndexSpec.Proper, ne_eq, not_true_eq_false,
          false_and]
      · rw [if_neg empty]
        cases first : firstRepeated [] spec.paths with
        | some path =>
            have repeated : ¬ spec.paths.Nodup := by
              intro distinct
              have none := (firstRepeated_eq_none_iff [] spec.paths).mpr
                ⟨distinct, fun _ _ => List.not_mem_nil⟩
              rw [first] at none
              cases none
            simp only [reduceCtorEq, IndexSpec.Proper, repeated, and_false, false_and]
        | none =>
            have distinct := ((firstRepeated_eq_none_iff [] spec.paths).mp first).1
            simp only [ih, IndexSpec.Proper, ne_eq, empty, not_false_eq_true, distinct, true_and]

/-- Collections without a violation have distinct names and proper indexes. -/
theorem collectionViolation?_eq_none_iff (seen : List String)
    (collections : List CollectionSpec) :
    collectionViolation? seen collections = none ↔
      (∀ declared ∈ collections, Text.allBlank declared.name = false ∧
        ∀ spec ∈ declared.indexes, spec.Proper) ∧
      (collections.map CollectionSpec.name).Nodup ∧
      ∀ declared ∈ collections, declared.name ∉ seen := by
  induction collections generalizing seen with
  | nil => simp [collectionViolation?]
  | cons declared rest ih =>
      simp only [collectionViolation?, List.contains_iff_mem, List.map_cons, List.nodup_cons,
        List.forall_mem_cons]
      by_cases blank : Text.allBlank declared.name = true
      · simp [blank]
      · by_cases repeated : declared.name ∈ seen
        · simp [blank, repeated]
        · rw [if_neg blank, if_neg repeated]
          cases violation : indexViolation? declared.name declared.indexes with
          | some violation =>
              have improper : ¬ ∀ spec ∈ declared.indexes, spec.Proper := by
                rw [← indexViolation?_eq_none_iff declared.name, violation]
                exact Option.some_ne_none _
              simp only [reduceCtorEq, improper, and_false, false_and]
          | none =>
              have proper := (indexViolation?_eq_none_iff _ _).mp violation
              simp only [ih, Bool.not_eq_true] at blank ⊢
              constructor
              · rintro ⟨valid, distinct, others⟩
                refine ⟨⟨⟨blank, proper⟩, valid⟩, ⟨?_, distinct⟩, repeated, ?_⟩
                · intro member
                  obtain ⟨other, inside, same⟩ := List.mem_map.mp member
                  exact others other inside (same ▸ List.mem_cons_self)
                · exact fun other member seen =>
                    others other member (List.mem_cons_of_mem _ seen)
              · rintro ⟨⟨_, valid⟩, ⟨fresh, distinct⟩, _, others⟩
                refine ⟨valid, distinct, fun other member seen => ?_⟩
                rcases List.mem_cons.mp seen with same | seen
                · exact fresh (List.mem_map.mpr ⟨other, member, same⟩)
                · exact others other member seen

/-- The definitions without violation. -/
theorem violation?_eq_none_iff (definition : SchemaDefinition) :
    definition.violation? = none ↔
      Text.allBlank definition.database = false ∧
      (∀ declared ∈ definition.collections, Text.allBlank declared.name = false ∧
        ∀ spec ∈ declared.indexes, spec.Proper) ∧
      (definition.collections.map CollectionSpec.name).Nodup := by
  rw [violation?]
  by_cases blank : Text.allBlank definition.database = true
  · simp only [blank, ↓reduceIte, reduceCtorEq, Bool.true_eq_false, false_and]
  · rw [if_neg blank, collectionViolation?_eq_none_iff]
    simp only [Bool.not_eq_true] at blank
    simp only [blank, List.not_mem_nil, not_false_eq_true, implies_true, and_true, true_and]

/-- A definition without a violation can be declared. -/
theorem declarable {definition : SchemaDefinition} (valid : definition.violation? = none) :
    Declarable definition.collections := by
  obtain ⟨_, proper, distinct⟩ := (violation?_eq_none_iff definition).mp valid
  exact ⟨distinct, fun declared member spec inside => ((proper declared member).2 spec inside).2⟩

end SchemaDefinition

end SchemaBootstrap

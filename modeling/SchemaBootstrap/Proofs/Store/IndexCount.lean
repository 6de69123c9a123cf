import Mathlib.Algebra.GroupWithZero.Nat
import SchemaBootstrap.Proofs.Store.Contents

/-! # Counting the indexes of a store

A measure of values adds up over a catalog, and putting a value under a name exchanges one
summand for another (`Catalog.total_set`). So the indexes of a store can be counted from one
change of a collection to the next (`MemoryStore.indexCount_set`).
-/

namespace SchemaBootstrap

namespace Catalog

variable {size : α → Nat}

/-- The sum of the sizes of all values. -/
def total (size : α → Nat) (catalog : Catalog α) : Nat :=
  (catalog.entries.map fun entry => size entry.2).sum

/-- Putting a value under a name adds its size and takes away that of the value before it. -/
theorem sum_put (size : α → Nat) (name : String) (value : α) {entries : List (String × α)}
    (sorted : entries.Pairwise fun first second => Text.precedes first.1 second.1 = true) :
    ((put name value entries).map fun entry => size entry.2).sum +
        ((entries.lookup name).map size).getD 0 =
      (entries.map fun entry => size entry.2).sum + size value := by
  induction entries with
  | nil => simp only [put, List.map_nil, List.map_cons, List.sum_nil, List.sum_cons,
      List.lookup_nil, Option.map_none, Option.getD_none, Nat.zero_add, Nat.add_zero]
  | cons first rest ih =>
      obtain ⟨other, old⟩ := first
      obtain ⟨after, tail⟩ := List.pairwise_cons.mp sorted
      unfold put
      by_cases same : other = name
      · rw [if_pos same, lookup_cons, if_pos same.symm]
        simp only [List.map_cons, List.sum_cons, Option.map_some, Option.getD_some]
        omega
      · rw [if_neg same]
        by_cases before : Text.precedes name other = true
        · -- All entries come after the name, so none of them has it.
          have absent : ((other, old) :: rest).lookup name = none := by
            apply lookup_eq_none
            intro entry member
            rcases List.mem_cons.mp member with rfl | later
            · exact before
            · exact Text.precedes_trans before (after entry later)
          rw [if_pos before, absent]
          simp only [List.map_cons, List.sum_cons, Option.map_none, Option.getD_none]
          omega
        · have later := ih tail
          rw [if_neg before, lookup_cons, if_neg (Ne.symm same)]
          simp only [List.map_cons, List.sum_cons]
          omega

/-- Setting a value in a catalog replaces its size in the total. -/
theorem total_set (size : α → Nat) (catalog : Catalog α) (name : String) (value : α) :
    (catalog.set name value).total size + ((catalog.get? name).map size).getD 0 =
      catalog.total size + size value :=
  sum_put size name value catalog.sorted

end Catalog

namespace MemoryStore

/-- The number of indexes in all collections. -/
def indexCount (store : MemoryStore) : Nat :=
  store.collections.total fun collection => collection.indexes.length

/-- Setting a collection replaces its indexes in the count. -/
theorem indexCount_set (store : MemoryStore) (name : String) (collection : MemoryCollection) :
    (store.set name collection).indexCount + (store.collection name).indexes.length =
      store.indexCount + collection.indexes.length := by
  have counted := store.collections.total_set
    (fun collection : MemoryCollection => collection.indexes.length) name collection
  have kept : ((store.collections.get? name).map fun collection : MemoryCollection =>
      collection.indexes.length).getD 0 = (store.collection name).indexes.length := by
    unfold MemoryStore.collection
    cases store.collections.get? name <;> rfl
  rw [kept] at counted
  exact counted

end MemoryStore

end SchemaBootstrap

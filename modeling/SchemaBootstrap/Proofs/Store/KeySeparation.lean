import SchemaBootstrap.Proofs.Bson.Sameness
import SchemaBootstrap.Store.Memory

/-! # Documents told apart by an index

An index separates documents when no later one has the key of an earlier one
(`ExistingIndex.Separates`); for documents without repeated field names the order
does not matter (`ExistingIndex.Separates.sameKey_eq_false`). The scan over the
documents of a collection and the look at a new document both decide this relation:
the first for the documents as they are
(`ExistingIndex.repeatsKey_nil_eq_false_iff`), the second for one document more
(`ExistingIndex.separates_append_singleton`). A scan can be interrupted after any
document and gone on with (`ExistingIndex.repeatsKey_append`).
-/

namespace SchemaBootstrap

namespace ExistingIndex

/-- No two of some documents have the same key. -/
def Separates (index : ExistingIndex) (documents : List Document) : Prop :=
  documents.Pairwise fun earlier later => index.sameKey earlier later = false

theorem separates_nil (index : ExistingIndex) : index.Separates [] :=
  List.Pairwise.nil

theorem separates_cons (index : ExistingIndex) (document : Document)
    (rest : List Document) :
    index.Separates (document :: rest) ↔
      (∀ later ∈ rest, index.sameKey document later = false) ∧ index.Separates rest :=
  List.pairwise_cons

/-- A document does not clash if no other one has its key. -/
theorem clashes_eq_false_iff (index : ExistingIndex) (documents : List Document)
    (document : Document) :
    index.clashes documents document = false ↔
      ∀ present ∈ documents, index.sameKey present document = false := by
  simp only [clashes, List.any_eq_false, Bool.not_eq_true]

/-- No key is repeated if the documents are separated, and from those seen before. -/
theorem repeatsKey_eq_false_iff (index : ExistingIndex) (seen documents : List Document) :
    index.repeatsKey seen documents = false ↔
      index.Separates documents ∧
        ∀ later ∈ documents, index.clashes seen later = false := by
  -- The documents seen so far grow by one with every step of the scan.
  induction documents generalizing seen with
  | nil => simp only [repeatsKey, separates_nil, List.not_mem_nil, false_implies, implies_true,
      and_self]
  | cons document rest ih =>
      rw [repeatsKey, Bool.or_eq_false_iff, ih, separates_cons, List.forall_mem_cons]
      simp only [clashes_eq_false_iff, List.forall_mem_append, List.mem_singleton, forall_eq]
      constructor
      · rintro ⟨fresh, separated, others⟩
        exact ⟨⟨fun later member => (others later member).2, separated⟩, fresh,
          fun later member => (others later member).1⟩
      · rintro ⟨⟨first, separated⟩, fresh, others⟩
        exact ⟨fresh, separated, fun later member =>
          ⟨others later member, first later member⟩⟩

/-- The scan over documents succeeds exactly on separated ones. -/
theorem repeatsKey_nil_eq_false_iff (index : ExistingIndex) (documents : List Document) :
    index.repeatsKey [] documents = false ↔ index.Separates documents := by
  rw [repeatsKey_eq_false_iff]
  simp only [clashes, List.any_nil, implies_true, and_true]

/-- A scan goes on after some documents with these as seen. -/
theorem repeatsKey_append (index : ExistingIndex) (seen first second : List Document) :
    index.repeatsKey seen (first ++ second) =
      (index.repeatsKey seen first || index.repeatsKey (seen ++ first) second) := by
  induction first generalizing seen with
  | nil => rw [List.nil_append, List.append_nil, repeatsKey, Bool.false_or]
  | cons document rest ih =>
      rw [List.cons_append, repeatsKey, repeatsKey, ih, Bool.or_assoc, List.append_assoc,
        List.singleton_append]

/-- Documents stay separated if those that are added repeat no key. -/
theorem separates_append (index : ExistingIndex) (present added : List Document) :
    index.Separates (present ++ added) ↔
      index.Separates present ∧ index.repeatsKey present added = false := by
  rw [← repeatsKey_nil_eq_false_iff, ← repeatsKey_nil_eq_false_iff, repeatsKey_append,
    List.nil_append, Bool.or_eq_false_iff]

/-- One document more is separated when it clashes with none of those before it. -/
theorem separates_append_singleton (index : ExistingIndex) (documents : List Document)
    (document : Document) :
    index.Separates (documents ++ [document]) ↔
      index.Separates documents ∧ index.clashes documents document = false := by
  rw [separates_append, repeatsKey, repeatsKey, Bool.or_false]

/-- Documents are not separated when two of them, at different positions, have the same key. -/
theorem not_separates_iff (index : ExistingIndex) (documents : List Document) :
    ¬ index.Separates documents ↔
      ∃ (i j : Nat) (first second : Document), i < j ∧ documents[i]? = some first ∧
        documents[j]? = some second ∧ index.sameKey first second = true := by
  constructor
  · intro crowded
    by_contra none
    refine crowded (List.pairwise_iff_getElem.mpr fun i j inside inside' before => ?_)
    by_contra same
    exact none ⟨i, j, _, _, before, List.getElem?_eq_getElem inside,
      List.getElem?_eq_getElem inside', Bool.not_eq_false _ ▸ same⟩
  · rintro ⟨i, j, first, second, before, found, found', same⟩ separated
    obtain ⟨inside, rfl⟩ := List.getElem?_eq_some_iff.mp found
    obtain ⟨inside', rfl⟩ := List.getElem?_eq_some_iff.mp found'
    rw [List.pairwise_iff_getElem.mp separated i j inside inside' before] at same
    cases same

/-- Proper documents have the same key either way round. -/
theorem sameKey_comm (index : ExistingIndex) {first second : Document}
    (proper : Bson.ProperFields first) (proper' : Bson.ProperFields second) :
    index.sameKey first second = index.sameKey second first := by
  refine Bson.sameElements_comm (fun value member => ?_) fun value member => ?_
  · obtain ⟨path, _, rfl⟩ := List.mem_map.mp member
    exact Document.proper_lookup proper path
  · obtain ⟨path, _, rfl⟩ := List.mem_map.mp member
    exact Document.proper_lookup proper' path

/-- Separated documents at different positions have different keys, in either order. -/
theorem Separates.sameKey_eq_false {index : ExistingIndex} {documents : List Document}
    (separated : index.Separates documents) {i j : Nat} {first second : Document}
    (found : documents[i]? = some first) (found' : documents[j]? = some second)
    (differ : i ≠ j) (proper : Bson.ProperFields first) (proper' : Bson.ProperFields second) :
    index.sameKey first second = false := by
  obtain ⟨inside, rfl⟩ := List.getElem?_eq_some_iff.mp found
  obtain ⟨inside', rfl⟩ := List.getElem?_eq_some_iff.mp found'
  rcases Nat.lt_or_gt_of_ne differ with before | after
  · exact List.pairwise_iff_getElem.mp separated i j inside inside' before
  · rw [sameKey_comm index proper proper']
    exact List.pairwise_iff_getElem.mp separated j i inside' inside after

end ExistingIndex

end SchemaBootstrap

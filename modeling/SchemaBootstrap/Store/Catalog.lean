import SchemaBootstrap.Text.Order

/-! # Values under names

A catalog holds one value under each of its names and lists them in the order of
the names. The entries are kept sorted, so two catalogs with the same value under
every name are equal (`Catalog.ext_get?`).
-/

namespace SchemaBootstrap

/-- Values under names, sorted by name. -/
structure Catalog (α : Type) where
  entries : List (String × α)
  sorted : entries.Pairwise fun first second => Text.precedes first.1 second.1 = true

namespace Catalog

/-- The catalog without entries. -/
def empty : Catalog α where
  entries := []
  sorted := .nil

/-- The names, in order. -/
def names (catalog : Catalog α) : List String :=
  catalog.entries.map Prod.fst

/-- The value under a name. -/
def get? (catalog : Catalog α) (name : String) : Option α :=
  catalog.entries.lookup name

/-- Sorted entries with a value put under a name. -/
def put (name : String) (value : α) : List (String × α) → List (String × α)
  | [] => [(name, value)]
  | (other, old) :: rest =>
    if other = name then (name, value) :: rest
    else if Text.precedes name other then (name, value) :: (other, old) :: rest
    else (other, old) :: put name value rest

theorem mem_put {name : String} {value : α} {entries : List (String × α)} {entry : String × α}
    (member : entry ∈ put name value entries) : entry = (name, value) ∨ entry ∈ entries := by
  induction entries with
  | nil => simpa [put] using member
  | cons first rest ih =>
      simp only [put] at member
      split at member
      · rcases List.mem_cons.mp member with equal | member
        · exact Or.inl equal
        · exact Or.inr (List.mem_cons_of_mem _ member)
      · split at member
        · exact List.mem_cons.mp member
        · rcases List.mem_cons.mp member with equal | member
          · exact Or.inr (List.mem_cons.mpr (Or.inl equal))
          · exact (ih member).imp_right (List.mem_cons_of_mem _)

theorem sorted_put (name : String) (value : α) {entries : List (String × α)}
    (sorted : entries.Pairwise fun first second => Text.precedes first.1 second.1 = true) :
    (put name value entries).Pairwise
      fun first second => Text.precedes first.1 second.1 = true := by
  induction entries with
  | nil => simp [put]
  | cons first rest ih =>
      have tail := List.pairwise_cons.mp sorted
      simp only [put]
      split
      · next same => exact List.pairwise_cons.mpr ⟨by rw [← same]; exact tail.1, tail.2⟩
      · next other =>
          split
          · next before =>
              refine List.pairwise_cons.mpr ⟨fun entry member => ?_, sorted⟩
              rcases List.mem_cons.mp member with rfl | member
              · exact before
              · exact Text.precedes_trans before (tail.1 entry member)
          · next after =>
              refine List.pairwise_cons.mpr ⟨fun entry member => ?_, ih tail.2⟩
              rcases mem_put member with rfl | member
              · exact (Text.precedes_total other).resolve_right after
              · exact tail.1 entry member

/-- Puts a value under a name, in the place of the one that is there already. -/
def set (catalog : Catalog α) (name : String) (value : α) : Catalog α where
  entries := put name value catalog.entries
  sorted := sorted_put name value catalog.sorted

/-- Whether there is a value under a name. -/
def contains (catalog : Catalog α) (name : String) : Bool :=
  (catalog.get? name).isSome

theorem lookup_cons (name : String) (first : String × α) (rest : List (String × α)) :
    (first :: rest).lookup name = if name = first.1 then some first.2 else rest.lookup name := by
  obtain ⟨key, value⟩ := first
  rw [List.lookup_cons]
  by_cases same : name = key
  · simp [same]
  · have differ : (name == key) = false := by simpa using same
    simp [differ, same]

theorem lookup_put (name : String) (value : α) (entries : List (String × α)) (other : String) :
    (put name value entries).lookup other =
      if other = name then some value else entries.lookup other := by
  induction entries with
  | nil => simp only [put, lookup_cons]
  | cons first rest ih =>
      simp only [put]
      split
      · next equal =>
          rw [lookup_cons, lookup_cons, equal]
          by_cases same : other = name <;> simp only [same, if_true, if_false]
      · split
        · rw [lookup_cons]
        · next differ _ =>
            rw [lookup_cons, lookup_cons, ih]
            by_cases same : other = name
            · have apart : ¬ other = first.1 := fun equal => differ (equal.symm.trans same)
              rw [if_neg apart, if_pos same, if_pos same]
            · rw [if_neg same, if_neg same]

theorem get?_set (catalog : Catalog α) (name : String) (value : α) (other : String) :
    (catalog.set name value).get? other =
      if other = name then some value else catalog.get? other :=
  lookup_put name value catalog.entries other

theorem lookup_eq_none {name : String} {entries : List (String × α)}
    (after : ∀ entry ∈ entries, Text.precedes name entry.1 = true) :
    entries.lookup name = none := by
  induction entries with
  | nil => rfl
  | cons first rest ih =>
      have differ : ¬ name = first.1 := by
        intro same
        have before := after first (List.mem_cons.mpr (Or.inl rfl))
        rw [← same, Text.precedes_irrefl] at before
        exact Bool.noConfusion before
      rw [lookup_cons, if_neg differ]
      exact ih fun entry member => after entry (List.mem_cons_of_mem _ member)

theorem entries_ext {xs ys : List (String × α)}
    (sorted : xs.Pairwise fun first second => Text.precedes first.1 second.1 = true)
    (sorted' : ys.Pairwise fun first second => Text.precedes first.1 second.1 = true)
    (agree : ∀ name, xs.lookup name = ys.lookup name) : xs = ys := by
  induction xs generalizing ys with
  | nil =>
      cases ys with
      | nil => rfl
      | cons second ys => simpa [lookup_cons] using agree second.1
  | cons first xs ih =>
      cases ys with
      | nil => simpa [lookup_cons] using agree first.1
      | cons second ys =>
          have tail := List.pairwise_cons.mp sorted
          have tail' := List.pairwise_cons.mp sorted'
          by_cases same : first.1 = second.1
          · have value : first.2 = second.2 := by
              simpa [lookup_cons, same] using agree first.1
            have rest : ∀ name, xs.lookup name = ys.lookup name := by
              intro name
              by_cases here : name = first.1
              · rw [here, lookup_eq_none tail.1, same, lookup_eq_none tail'.1]
              · have apart : ¬ name = second.1 := fun equal => here (equal.trans same.symm)
                have agreed := agree name
                rwa [lookup_cons, lookup_cons, if_neg here, if_neg apart] at agreed
            rw [Prod.ext same value, ih tail.2 tail'.2 rest]
          · exfalso
            rcases Text.precedes_total same with before | before
            · have absent : (second :: ys).lookup first.1 = none :=
                lookup_eq_none fun entry member => by
                  rcases List.mem_cons.mp member with rfl | member
                  · exact before
                  · exact Text.precedes_trans before (tail'.1 entry member)
              have found := agree first.1
              rw [absent] at found
              simp [lookup_cons] at found
            · have absent : (first :: xs).lookup second.1 = none :=
                lookup_eq_none fun entry member => by
                  rcases List.mem_cons.mp member with rfl | member
                  · exact before
                  · exact Text.precedes_trans before (tail.1 entry member)
              have found := agree second.1
              rw [absent] at found
              simp [lookup_cons] at found

theorem ext_get? {first second : Catalog α}
    (agree : ∀ name, first.get? name = second.get? name) : first = second := by
  cases first with
  | mk entries sorted =>
      cases second with
      | mk entries' sorted' =>
          have equal : entries = entries' := entries_ext sorted sorted' agree
          subst equal
          rfl

end Catalog

end SchemaBootstrap

import Mathlib.Data.List.Lex
import SchemaBootstrap.Proofs.Schema.Validity

/-! # The violation that comes first

A definition is checked at places: the name of the database, then for each collection its
name, the repetition of an earlier name, and its indexes, each as a whole and then field by
field. The places are in an order (`Place.rank`), and what it means that a definition is
violated at one of them says nothing of the others (`Violated`). Validation goes through the
places in this order: as long as it has found nothing, nothing is violated at the places it
has passed (`CleanBefore`). So it reports the violation at the first place that has one
(`validate_reports_first_violation`).
-/

namespace SchemaBootstrap

namespace SchemaDefinition

/-- A place at which a definition is checked. All positions count from zero. -/
inductive Place where
  | database
  | name (collection : Nat)
  | repetition (collection : Nat)
  | index (collection number : Nat)
  | field (collection number position : Nat)

namespace Place

/-- The numbers by which places are ordered, as words are in a dictionary. -/
def rank : Place → List Nat
  | database => []
  | name collection => [collection]
  | repetition collection => [collection, 0]
  | index collection number => [collection, 1, number]
  | field collection number position => [collection, 1, number, position]

instance : LT Place where
  lt first second := first.rank < second.rank

theorem lt_def (first second : Place) : first < second ↔ first.rank < second.rank :=
  Iff.rfl

/-- Places of the same rank are one. -/
theorem rank_injective : Function.Injective rank := by
  intro first second same
  cases first <;> cases second <;> simp_all [rank]

/-- Of two places, one comes first. -/
theorem lt_or_eq_or_gt (first second : Place) :
    first < second ∨ first = second ∨ second < first :=
  (lt_trichotomy first.rank second.rank).imp_right (Or.imp_left fun same => rank_injective same)

section Neighbours

variable {earlier : Place} {c i f : Nat}

/-- In front of the first collection there is only the database. -/
theorem lt_name_zero (before : earlier < name 0) : earlier = database := by
  cases earlier <;> simp_all [lt_def, rank, List.cons_lt_cons_iff]

/-- In front of the repetition of a name there is the name. -/
theorem lt_repetition (before : earlier < repetition c) :
    earlier < name c ∨ earlier = name c := by
  cases earlier <;> simp_all [lt_def, rank, List.cons_lt_cons_iff]

/-- In front of the first index there is the repetition of the collection's name. -/
theorem lt_index_zero (before : earlier < index c 0) :
    earlier < repetition c ∨ earlier = repetition c := by
  cases earlier <;> simp_all [lt_def, rank, List.cons_lt_cons_iff]

/-- In front of the first field there is the index. -/
theorem lt_field_zero (before : earlier < field c i 0) :
    earlier < index c i ∨ earlier = index c i := by
  cases earlier <;> simp_all [lt_def, rank, List.cons_lt_cons_iff]
  all_goals omega

/-- In front of the next field there is the one before it. -/
theorem lt_field_succ (before : earlier < field c i (f + 1)) :
    earlier < field c i f ∨ earlier = field c i f := by
  cases earlier <;> simp_all [lt_def, rank, List.cons_lt_cons_iff]
  all_goals omega

/-- In front of the next index there are the fields of the one before it. -/
theorem lt_index_succ (before : earlier < index c (i + 1)) (f : Nat) :
    earlier < field c i f ∨ ∃ g, f ≤ g ∧ earlier = field c i g := by
  cases earlier <;> simp_all [lt_def, rank, List.cons_lt_cons_iff]
  all_goals omega

/-- In front of the next collection there are the indexes of the one before it. -/
theorem lt_name_succ (before : earlier < name (c + 1)) (i : Nat) :
    earlier < index c i ∨ ∃ j, i ≤ j ∧ (earlier = index c j ∨ ∃ f, earlier = field c j f) := by
  cases earlier <;> simp_all [lt_def, rank, List.cons_lt_cons_iff]
  all_goals omega

end Neighbours

end Place

/-- What it means that a definition is violated at a place. -/
inductive Violated (definition : SchemaDefinition) : Place → SchemaViolation → Prop where
  | database (blank : Text.allBlank definition.database = true) :
      Violated definition .database .emptyDatabaseName
  | name {c : Nat} {declared : CollectionSpec}
      (here : definition.collections[c]? = some declared)
      (blank : Text.allBlank declared.name = true) :
      Violated definition (.name c) .emptyCollectionName
  | repetition {b c : Nat} {other declared : CollectionSpec} (before : b < c)
      (there : definition.collections[b]? = some other)
      (here : definition.collections[c]? = some declared)
      (same : other.name = declared.name) :
      Violated definition (.repetition c) (.duplicateCollection declared.name)
  | index {c i : Nat} {declared : CollectionSpec} {spec : IndexSpec}
      (within : definition.collections[c]? = some declared)
      (here : declared.indexes[i]? = some spec) (empty : spec.fields = []) :
      Violated definition (.index c i) (.emptyIndex declared.name)
  | field {c i e f : Nat} {declared : CollectionSpec} {spec : IndexSpec} {path : String}
      (within : definition.collections[c]? = some declared)
      (inside : declared.indexes[i]? = some spec) (before : e < f)
      (there : spec.paths[e]? = some path) (here : spec.paths[f]? = some path) :
      Violated definition (.field c i f) (.repeatedField declared.name path)

/-- No place before a place is violated. -/
def CleanBefore (definition : SchemaDefinition) (place : Place) : Prop :=
  ∀ earlier < place, ∀ violation, ¬ definition.Violated earlier violation

/-- A place is violated, and no place before it is. -/
structure FirstViolated (definition : SchemaDefinition) (place : Place)
    (violation : SchemaViolation) : Prop where
  violated : definition.Violated place violation
  first : definition.CleanBefore place

/-- What checking the places before a place has led to: the first violation, or none. -/
def Scanned (definition : SchemaDefinition) (next : Place) : Option SchemaViolation → Prop
  | some violation => ∃ place, definition.FirstViolated place violation
  | none => definition.CleanBefore next

variable {definition : SchemaDefinition}

/-- The entry at a split is found at the length of what is before it. -/
theorem getElem?_of_split {entries before rest : List α} {entry : α}
    (split : entries = before ++ entry :: rest) : entries[before.length]? = some entry := by
  rw [split, List.getElem?_append_right (Nat.le_refl _), Nat.sub_self]
  rfl

/-- A place has one violation at most. -/
theorem Violated.unique {place : Place} {first second : SchemaViolation}
    (violated : definition.Violated place first) (violated' : definition.Violated place second) :
    first = second := by
  cases violated <;> cases violated' <;> simp_all

/-- There is one first violation at most. -/
theorem FirstViolated.unique {place place' : Place} {violation violation' : SchemaViolation}
    (first : definition.FirstViolated place violation)
    (first' : definition.FirstViolated place' violation') : violation = violation' := by
  rcases Place.lt_or_eq_or_gt place place' with before | same | after
  · exact absurd first.violated (first'.first place before violation)
  · exact first.violated.unique (same ▸ first'.violated)
  · exact absurd first'.violated (first.first place' after violation')

/-- The places before the next one are those passed and some that are not violated. -/
theorem CleanBefore.advance {here next : Place} (clean : definition.CleanBefore here)
    (between : ∀ earlier < next, earlier < here ∨
      ∀ violation, ¬ definition.Violated earlier violation) : definition.CleanBefore next :=
  fun earlier before => (between earlier before).elim (clean earlier) id

/-- Nothing is violated in front of the next place if nothing is at this one. -/
theorem CleanBefore.advance_to {here next : Place} (clean : definition.CleanBefore here)
    (passed : ∀ violation, ¬ definition.Violated here violation)
    (neighbours : ∀ earlier < next, earlier < here ∨ earlier = here) :
    definition.CleanBefore next :=
  clean.advance fun earlier before =>
    (neighbours earlier before).imp_right (by rintro rfl; exact passed)

section Fields

variable {c i : Nat} {declared : CollectionSpec} {spec : IndexSpec}

/-- The search for a repeated path finds the first violation among the fields. -/
theorem scanned_firstRepeated (within : definition.collections[c]? = some declared)
    (inside : declared.indexes[i]? = some spec) (seen before : List String) {rest : List String}
    (split : spec.paths = before ++ rest) (known : ∀ path, path ∈ seen ↔ path ∈ before)
    (clean : definition.CleanBefore (.field c i before.length)) :
    definition.Scanned (.field c i spec.paths.length)
      ((firstRepeated seen rest).map (.repeatedField declared.name)) := by
  induction rest generalizing seen before with
  | nil =>
      rw [split, List.append_nil]
      exact clean
  | cons path rest ih =>
      have here : spec.paths[before.length]? = some path := getElem?_of_split split
      rw [firstRepeated]
      by_cases repeated : path ∈ seen
      · rw [if_pos (List.contains_iff_mem.mpr repeated)]
        obtain ⟨e, there⟩ := List.mem_iff_getElem?.mp ((known path).mp repeated)
        have earlier : e < before.length := (List.getElem?_eq_some_iff.mp there).1
        refine ⟨_, .field within inside earlier ?_ here, clean⟩
        rw [split, List.getElem?_append_left earlier, there]
      · rw [if_neg (mt List.contains_iff_mem.mp repeated)]
        have passed : ∀ violation, ¬ definition.Violated (.field c i before.length) violation := by
          rintro violation violated
          cases violated with
          | field within' inside' earlier there' here' =>
              cases within.symm.trans within'
              cases inside.symm.trans inside'
              cases here.symm.trans here'
              rw [split, List.getElem?_append_left earlier] at there'
              exact repeated ((known path).mpr (List.mem_iff_getElem?.mpr ⟨_, there'⟩))
        refine ih (path :: seen) (before ++ [path]) (by rw [split, List.append_assoc]; rfl) ?_ ?_
        · intro other
          rw [List.mem_cons, List.mem_append, List.mem_singleton, known, or_comm]
        · rw [List.length_append]
          exact clean.advance_to passed fun _ => Place.lt_field_succ

/-- After the last field of an index comes the next index. -/
theorem CleanBefore.index_succ (within : definition.collections[c]? = some declared)
    (inside : declared.indexes[i]? = some spec)
    (clean : definition.CleanBefore (.field c i spec.paths.length)) :
    definition.CleanBefore (.index c (i + 1)) := by
  refine clean.advance fun earlier before => ?_
  refine (Place.lt_index_succ before spec.paths.length).imp_right ?_
  rintro ⟨f, beyond, rfl⟩ violation violated
  cases violated with
  | field within' inside' _ _ here =>
      cases within.symm.trans within'
      cases inside.symm.trans inside'
      rw [List.getElem?_eq_none beyond] at here
      cases here

end Fields

section Indexes

variable {c : Nat} {declared : CollectionSpec}

/-- The check of indexes finds the first violation among them. -/
theorem scanned_indexViolation? (within : definition.collections[c]? = some declared)
    (before : List IndexSpec) {rest : List IndexSpec} (split : declared.indexes = before ++ rest)
    (clean : definition.CleanBefore (.index c before.length)) :
    definition.Scanned (.index c declared.indexes.length)
      (indexViolation? declared.name rest) := by
  induction rest generalizing before with
  | nil =>
      rw [split, List.append_nil]
      exact clean
  | cons spec rest ih =>
      have inside : declared.indexes[before.length]? = some spec := getElem?_of_split split
      rw [indexViolation?]
      by_cases empty : spec.fields = []
      · rw [if_pos (List.isEmpty_iff.mpr empty)]
        exact ⟨_, .index within inside empty, clean⟩
      · rw [if_neg (mt List.isEmpty_iff.mp empty)]
        have passed : ∀ violation, ¬ definition.Violated (.index c before.length) violation := by
          rintro violation violated
          cases violated with
          | index within' inside' empty' =>
              cases within.symm.trans within'
              cases inside.symm.trans inside'
              exact empty empty'
        have fields := scanned_firstRepeated within inside [] [] (List.nil_append _).symm
          (fun _ => Iff.rfl)
          (clean.advance_to passed fun _ => Place.lt_field_zero)
        cases found : firstRepeated [] spec.paths with
        | some path =>
            rw [found] at fields
            exact fields
        | none =>
            rw [found] at fields
            refine ih (before ++ [spec]) (by rw [split, List.append_assoc]; rfl) ?_
            rw [List.length_append]
            exact CleanBefore.index_succ within inside fields

/-- After the last index of a collection comes the next collection. -/
theorem CleanBefore.name_succ (within : definition.collections[c]? = some declared)
    (clean : definition.CleanBefore (.index c declared.indexes.length)) :
    definition.CleanBefore (.name (c + 1)) := by
  refine clean.advance fun earlier before => ?_
  refine (Place.lt_name_succ before declared.indexes.length).imp_right ?_
  rintro ⟨i, beyond, rfl | ⟨f, rfl⟩⟩ violation violated
  · cases violated with
    | index within' inside _ =>
        cases within.symm.trans within'
        rw [List.getElem?_eq_none beyond] at inside
        cases inside
  · cases violated with
    | field within' inside _ _ _ =>
        cases within.symm.trans within'
        rw [List.getElem?_eq_none beyond] at inside
        cases inside

end Indexes

/-- The check of collections finds the first violation among them. -/
theorem scanned_collectionViolation? (seen : List String) (before : List CollectionSpec)
    {rest : List CollectionSpec}
    (split : definition.collections = before ++ rest)
    (known : ∀ name, name ∈ seen ↔ name ∈ before.map CollectionSpec.name)
    (clean : definition.CleanBefore (.name before.length)) :
    definition.Scanned (.name definition.collections.length) (collectionViolation? seen rest) := by
  -- On the collections left; those before them are clean up to the place that comes next.
  induction rest generalizing seen before with
  | nil =>
      rw [split, List.append_nil]
      exact clean
  | cons declared rest ih =>
      have here : definition.collections[before.length]? = some declared :=
        getElem?_of_split split
      rw [collectionViolation?]
      by_cases blank : Text.allBlank declared.name = true
      · rw [if_pos blank]
        exact ⟨_, .name here blank, clean⟩
      rw [if_neg blank]
      have named : ∀ violation, ¬ definition.Violated (.name before.length) violation := by
        rintro violation violated
        cases violated with
        | name here' blank' =>
            cases here.symm.trans here'
            exact blank blank'
      have cleanName := clean.advance_to named fun _ => Place.lt_repetition
      by_cases repeated : declared.name ∈ seen
      · rw [if_pos (List.contains_iff_mem.mpr repeated)]
        obtain ⟨other, member, same⟩ := List.mem_map.mp ((known _).mp repeated)
        obtain ⟨b, there⟩ := List.mem_iff_getElem?.mp member
        have earlier : b < before.length := (List.getElem?_eq_some_iff.mp there).1
        refine ⟨_, .repetition earlier ?_ here same, cleanName⟩
        rw [split, List.getElem?_append_left earlier, there]
      rw [if_neg (mt List.contains_iff_mem.mp repeated)]
      have fresh : ∀ violation, ¬ definition.Violated (.repetition before.length) violation := by
        rintro violation violated
        cases violated with
        | repetition earlier there here' same =>
            cases here.symm.trans here'
            rw [split, List.getElem?_append_left earlier] at there
            refine repeated ((known _).mpr (List.mem_map.mpr ⟨_, ?_, same⟩))
            exact List.mem_iff_getElem?.mpr ⟨_, there⟩
      have indexes := scanned_indexViolation? here [] (List.nil_append _).symm
        (cleanName.advance_to fresh fun _ => Place.lt_index_zero)
      cases found : indexViolation? declared.name declared.indexes with
      | some violation =>
          rw [found] at indexes
          exact indexes
      | none =>
          rw [found] at indexes
          refine ih (declared.name :: seen) (before ++ [declared])
            (by rw [split, List.append_assoc]; rfl) ?_ ?_
          · intro name
            rw [List.mem_cons, known, List.map_append, List.mem_append, List.map_singleton,
              List.mem_singleton, or_comm]
          · rw [List.length_append]
            exact CleanBefore.name_succ here indexes

/-- The check of a definition finds its first violation. -/
theorem scanned_violation? (definition : SchemaDefinition) :
    definition.Scanned (.name definition.collections.length) definition.violation? := by
  rw [violation?]
  by_cases blank : Text.allBlank definition.database = true
  · rw [if_pos blank]
    refine ⟨.database, .database blank, fun earlier before => ?_⟩
    exact absurd before (List.not_lt_nil _)
  · rw [if_neg blank]
    refine scanned_collectionViolation? [] [] (List.nil_append _).symm
      (fun _ => Iff.rfl) fun earlier before violation violated => ?_
    rw [Place.lt_name_zero before] at violated
    cases violated with
    | database blank' => exact blank blank'

/-- Behind the last collection there is nothing to be violated. -/
theorem Violated.lt_end {place : Place} {violation : SchemaViolation}
    (violated : definition.Violated place violation) :
    place < .name definition.collections.length := by
  have inner : ∀ {c : Nat} {declared : CollectionSpec} {rest : List Nat},
      definition.collections[c]? = some declared →
        c :: rest < [definition.collections.length] :=
    fun here => List.cons_lt_cons_iff.mpr (Or.inl (List.getElem?_eq_some_iff.mp here).1)
  cases violated with
  | database _ => exact List.nil_lt_cons _ _
  | name here _ => exact inner here
  | repetition _ _ here _ => exact inner here
  | index within _ _ => exact inner within
  | field within _ _ _ _ => exact inner within

/-- A definition is refused for the violation that the check finds. -/
theorem validate_eq_error_iff_violation? (definition : SchemaDefinition)
    (violation : SchemaViolation) :
    definition.validate = .error violation ↔ definition.violation? = some violation := by
  rw [validate]
  cases definition.violation? with
  | some other => rw [Except.error.injEq, Option.some.injEq]
  | none => simp only [reduceCtorEq]

/-- A definition is accepted if the check finds none. -/
theorem validate_eq_ok_iff_violation? (definition : SchemaDefinition) :
    definition.validate = .ok () ↔ definition.violation? = none := by
  rw [validate]
  cases definition.violation? <;> simp only [reduceCtorEq]

/-- **Validation reports the first violation.** It accepts a definition exactly when no name
is blank, collection names are pairwise different, and every index has fields and pairwise
different paths. Otherwise it reports the violation at the first place that has one, with
the collection and the path of this place. -/
theorem validate_reports_first_violation (definition : SchemaDefinition) :
    (definition.validate = .ok () ↔
      Text.allBlank definition.database = false ∧
      (∀ declared ∈ definition.collections, Text.allBlank declared.name = false ∧
        ∀ spec ∈ declared.indexes, spec.fields ≠ [] ∧ spec.paths.Nodup) ∧
      (definition.collections.map CollectionSpec.name).Nodup) ∧
    ∀ violation, definition.validate = .error violation ↔
      ∃ place, definition.FirstViolated place violation := by
  have scanned := scanned_violation? definition
  refine ⟨(validate_eq_ok_iff_violation? _).trans (violation?_eq_none_iff definition),
    fun violation => ?_⟩
  rw [validate_eq_error_iff_violation?]
  cases found : definition.violation? with
  | some reported =>
      rw [found] at scanned
      obtain ⟨place, first⟩ := scanned
      constructor
      · intro same
        cases same
        exact ⟨place, first⟩
      · rintro ⟨place', first'⟩
        rw [first.unique first']
  | none =>
      rw [found] at scanned
      refine iff_of_false (by exact nofun) ?_
      rintro ⟨place, first⟩
      exact scanned place first.violated.lt_end violation first.violated

/-- The same path in two indexes is no violation, the one repeated after it is. -/
example :
    SchemaDefinition.validate ⟨"db", [⟨"a", [.ascending ["x"], .ascending ["x", "y", "x"]]⟩,
      ⟨"a", []⟩]⟩ = .error (.repeatedField "a" "x") := by
  decide +kernel

end SchemaDefinition

end SchemaBootstrap

import Mathlib.Data.List.Perm.Subperm
import SchemaBootstrap.Bson.Path

/-! # Sameness of values

Two values are the same in one order exactly when they are in the other, as long as
no document in them has two fields with one name (`Bson.same_comm`). The order matters
for the fields of documents only: those of the first are looked up in the second, and
since there are as many of them, all of the second are found.
-/

namespace SchemaBootstrap

/-- Doubles are equal either way round. -/
theorem Double.equal_comm (x y : Double) : x.equal y = y.equal x := by
  rw [Double.equal, Double.equal, Bool.and_comm (!x.isNaN), BEq.comm (a := x.bits),
    Bool.and_comm x.isZero]

namespace Bson

mutual

/-- No document in a value has two fields with one name. -/
def Proper : Bson → Prop
  | .document fields => ProperFields fields
  | .array elements => ProperElements elements
  | .scopedJavaScript _ scope => ProperFields scope
  | _ => True

/-- Fields have different names and proper values. -/
def ProperFields : List (String × Bson) → Prop
  | [] => True
  | (name, value) :: rest => name ∉ rest.map Prod.fst ∧ Proper value ∧ ProperFields rest

/-- All values of a list are proper. -/
def ProperElements : List Bson → Prop
  | [] => True
  | value :: rest => Proper value ∧ ProperElements rest

end

theorem ProperFields.nodup {fields : List (String × Bson)} (proper : ProperFields fields) :
    (fields.map Prod.fst).Nodup := by
  induction fields with
  | nil => exact List.nodup_nil
  | cons field rest ih =>
      rw [ProperFields] at proper
      exact List.nodup_cons.mpr ⟨proper.1, ih proper.2.2⟩

theorem ProperFields.value {fields : List (String × Bson)} (proper : ProperFields fields)
    {name : String} {value : Bson} (member : (name, value) ∈ fields) : value.Proper := by
  induction fields with
  | nil => cases member
  | cons field rest ih =>
      rw [ProperFields] at proper
      rcases List.mem_cons.mp member with rfl | later
      · exact proper.2.1
      · exact ih proper.2.2 later

/-- Each field of a proper document is found under its name. -/
theorem ProperFields.lookup_eq_some_iff {fields : List (String × Bson)}
    (proper : ProperFields fields) (name : String) (value : Bson) :
    fields.lookup name = some value ↔ (name, value) ∈ fields := by
  induction fields with
  | nil => simp only [List.lookup_nil, reduceCtorEq, List.not_mem_nil]
  | cons field rest ih =>
      obtain ⟨other, present⟩ := field
      rw [ProperFields] at proper
      rw [List.lookup_cons, List.mem_cons, Prod.mk.injEq]
      by_cases same : name = other
      · subst same
        have fresh : (name, value) ∉ rest := fun later =>
          proper.1 (List.mem_map.mpr ⟨_, later, rfl⟩)
        simp only [beq_self_eq_true, Option.some.injEq, true_and, fresh, or_false]
        exact eq_comm
      · simp only [beq_eq_false_iff_ne.mpr same, ih proper.2.2, same, false_and, false_or]

/-- The fields of one document are the same in another one when each of them is. -/
theorem sameFields_iff (fields other : List (String × Bson)) :
    sameFields fields other = true ↔ ∀ name value, (name, value) ∈ fields →
      ∃ value', other.lookup name = some value' ∧ same value value' = true := by
  induction fields with
  | nil => simp only [sameFields, List.not_mem_nil, false_implies, implies_true]
  | cons field rest ih =>
      obtain ⟨name, value⟩ := field
      rw [sameFields, Bool.and_eq_true, ih]
      constructor
      · rintro ⟨here, later⟩ name' value' member
        rcases List.mem_cons.mp member with found | member
        · obtain ⟨rfl, rfl⟩ := Prod.mk.inj found
          cases found : other.lookup name' with
          | none => simp only [found, Bool.false_eq_true] at here
          | some present => exact ⟨present, rfl, by simpa only [found] using here⟩
        · exact later name' value' member
      · intro all
        refine ⟨?_, fun name' value' member => all name' value' (List.mem_cons_of_mem _ member)⟩
        obtain ⟨present, found, equal⟩ := all name value List.mem_cons_self
        rw [found]
        exact equal

/-- If as many fields are looked up as there are, all of them are found. -/
theorem sameFields_swap {fields other : List (String × Bson)}
    (swap : ∀ name value, (name, value) ∈ fields → ∀ value', same value value' = true →
      value'.Proper → same value' value = true)
    (proper : ProperFields fields) (proper' : ProperFields other)
    (length : fields.length = other.length) (found : sameFields fields other = true) :
    sameFields other fields = true := by
  rw [sameFields_iff] at found ⊢
  have within : fields.map Prod.fst ⊆ other.map Prod.fst := by
    intro name listed
    obtain ⟨⟨_, value⟩, member, rfl⟩ := List.mem_map.mp listed
    obtain ⟨value', present, _⟩ := found _ value member
    exact List.mem_map.mpr ⟨_, (proper'.lookup_eq_some_iff _ _).mp present, rfl⟩
  -- Different names, and as many of them on both sides: none of the second document is left.
  have names : (fields.map Prod.fst).Perm (other.map Prod.fst) :=
    (List.subperm_of_subset proper.nodup within).perm_of_length_le
      (by rw [List.length_map, List.length_map]; exact Nat.le_of_eq length.symm)
  intro name value' member
  obtain ⟨⟨_, value⟩, inside, rfl⟩ := List.mem_map.mp
    (names.mem_iff.mpr (List.mem_map.mpr ⟨_, member, rfl⟩))
  obtain ⟨present, there, equal⟩ := found _ value inside
  have unique := ((proper'.lookup_eq_some_iff _ _).mpr member).symm.trans there
  obtain rfl := Option.some.inj unique
  exact ⟨value, (proper.lookup_eq_some_iff _ _).mpr inside,
    swap _ value inside _ equal (proper'.value member)⟩

/-- Proper values that are the same one way round are so the other way round. -/
theorem same_swap {a b : Bson} : a.Proper → b.Proper → same a b = true → same b a = true := by
  revert a b
  -- The fields of the first document are swapped each with its partner in the second one.
  apply Bson.same.induct
    (fun a b => a.Proper → b.Proper → same a b = true → same b a = true)
    (fun elements elements' => ProperElements elements → ProperElements elements' →
      sameElements elements elements' = true → sameElements elements' elements = true)
    (fun fields _ => ProperFields fields → ∀ name value, (name, value) ∈ fields →
      ∀ value', same value value' = true → value'.Proper → same value' value = true)
  case case6 =>
    intro x y _ _ equal
    rw [same] at equal ⊢
    rwa [Double.equal_comm]
  case case7 =>
    intro fields other swap proper proper' equal
    rw [Proper] at proper proper'
    rw [same, Bool.and_eq_true, beq_iff_eq] at equal ⊢
    exact ⟨equal.1.symm, sameFields_swap (swap proper) proper proper' equal.1 equal.2⟩
  case case8 =>
    intro elements elements' swap proper proper' equal
    rw [Proper] at proper proper'
    rw [same] at equal ⊢
    exact swap proper proper' equal
  case case17 =>
    intro code scope code' scope' swap proper proper' equal
    rw [Proper] at proper proper'
    simp only [same, Bool.and_eq_true, beq_iff_eq] at equal ⊢
    exact ⟨⟨equal.1.1.symm, equal.1.2.symm⟩,
      sameFields_swap (swap proper) proper proper' equal.1.2 equal.2⟩
  case case24 =>
    intro name value rest other swap later proper name' value' member other' equal proper'
    rw [ProperFields] at proper
    rcases List.mem_cons.mp member with found | member
    · obtain ⟨rfl, rfl⟩ := Prod.mk.inj found
      exact swap other' proper.2.1 proper' equal
    · exact later proper.2.2 name' value' member other' equal proper'
  case case26 =>
    intro a rest b rest' swap later proper proper' equal
    rw [ProperElements] at proper proper'
    rw [sameElements, Bool.and_eq_true] at equal ⊢
    exact ⟨swap proper.1 proper'.1 equal.1, later proper.2 proper'.2 equal.2⟩
  case case22 | case27 =>
    intros
    rename_i equal
    simp_all only [same, sameElements, Bool.false_eq_true]
  case case23 =>
    exact fun _ _ _ _ member => absurd member List.not_mem_nil
  case case1 | case19 | case20 | case21 | case25 =>
    exact fun _ _ equal => equal
  all_goals
    intros
    rename_i equal
    simpa only [same, BEq.comm] using equal

/-- Proper values are the same in one order exactly when they are in the other. -/
theorem same_comm {a b : Bson} (proper : a.Proper) (proper' : b.Proper) :
    same a b = same b a :=
  Bool.eq_iff_iff.mpr ⟨same_swap proper proper', same_swap proper' proper⟩

/-- Proper keys are the same either way round. -/
theorem sameElements_comm {elements elements' : List Bson}
    (proper : ∀ value ∈ elements, value.Proper) (proper' : ∀ value ∈ elements', value.Proper) :
    sameElements elements elements' = sameElements elements' elements := by
  induction elements generalizing elements' with
  | nil => cases elements' <;> rfl
  | cons value rest ih =>
      cases elements' with
      | nil => rfl
      | cons value' rest' =>
          obtain ⟨here, later⟩ := List.forall_mem_cons.mp proper
          obtain ⟨here', later'⟩ := List.forall_mem_cons.mp proper'
          rw [sameElements, sameElements, same_comm here here', ih later later']

end Bson

namespace Document

/-- What is found below a proper value is proper. -/
theorem proper_of_descend {value found : Bson} {path : List String} (proper : value.Proper)
    (below : descend value path = some found) : found.Proper := by
  induction path generalizing value with
  | nil =>
      rw [descend, Option.some.injEq] at below
      exact below ▸ proper
  | cons name rest ih =>
      cases value with
      | document fields =>
          rw [descend, Option.bind_eq_some_iff] at below
          obtain ⟨inner, there, below⟩ := below
          rw [Bson.Proper] at proper
          exact ih (proper.value ((proper.lookup_eq_some_iff _ _).mp there)) below
      | _ => cases below

/-- A lookup in a proper document finds a proper value, or null if it finds nothing. -/
theorem proper_lookup {document : Document} (proper : Bson.ProperFields document)
    (path : String) : ((document.lookup path).getD .null).Proper := by
  cases found : document.lookup path with
  | none => exact trivial
  | some value =>
      have whole : (Bson.document document).Proper := by rwa [Bson.Proper]
      exact proper_of_descend whole found

end Document

end SchemaBootstrap

import SchemaBootstrap.CommandLine.Run
import SchemaBootstrap.Proofs.Json.PrintedText

/-! # Documents of runs are read back

Every integer in a document that a run prints fits a machine word, since it comes from a number
of a store's document (`CommandOutput.fits_toJson`, `Bson.fits_toJson`). Plans, reports, schemas
and failures hold texts and truth values only, so they are read back as they are
(`CommandOutput.exact_toJson`); a comparison may tell of directions that a store has as doubles.
-/

namespace SchemaBootstrap

namespace Json

theorem exactElements_iff (elements : List Json) :
    ExactElements elements ↔ ∀ element ∈ elements, Exact element := by
  induction elements with
  | nil => simp [ExactElements]
  | cons element rest ih => rw [ExactElements, ih, List.forall_mem_cons]

/-- A list of exact documents is exact. -/
theorem exact_list {write : α → Json} {values : List α}
    (exact : ∀ value ∈ values, Exact (write value)) : Exact (list write values) := by
  rw [list, Exact, exactElements_iff]
  exact List.forall_mem_map.mpr exact

theorem exact_strings (values : List String) : Exact (strings values) := by
  rw [strings, Exact, exactElements_iff]
  exact List.forall_mem_map.mpr fun value _ => trivial

theorem fitsElements_iff (elements : List Json) :
    FitsElements elements ↔ ∀ element ∈ elements, Fits element := by
  induction elements with
  | nil => simp [FitsElements]
  | cons element rest ih => rw [FitsElements, ih, List.forall_mem_cons]

/-- A list of documents that fit does so itself. -/
theorem fits_list {write : α → Json} {values : List α}
    (fits : ∀ value ∈ values, Fits (write value)) : Fits (list write values) := by
  rw [list, Fits, fitsElements_iff]
  exact List.forall_mem_map.mpr fits

end Json

open Json (Exact Fits)

section Schema

theorem IndexField.exact_toJson (field : IndexField) : Exact field.toJson := by
  simp [IndexField.toJson, SortOrder.toJson, Exact, Json.ExactMembers]

theorem IndexSpec.exact_toJson (spec : IndexSpec) : Exact spec.toJson := by
  have fields : Exact (Json.list IndexField.toJson spec.fields) :=
    Json.exact_list fun field _ => field.exact_toJson
  simp [IndexSpec.toJson, Exact, Json.ExactMembers, fields]

theorem CollectionSpec.exact_toJson (collection : CollectionSpec) : Exact collection.toJson := by
  have indexes : Exact (Json.list IndexSpec.toJson collection.indexes) :=
    Json.exact_list fun spec _ => spec.exact_toJson
  simp [CollectionSpec.toJson, Exact, Json.ExactMembers, indexes]

/-- A definition is printed by integers, texts and truth values only. -/
theorem SchemaDefinition.exact_toJson (definition : SchemaDefinition) :
    Exact definition.toJson := by
  have collections : Exact (Json.list CollectionSpec.toJson definition.collections) :=
    Json.exact_list fun collection _ => collection.exact_toJson
  simp [SchemaDefinition.toJson, Exact, Json.ExactMembers, collections]

end Schema

section Results

theorem PlannedStep.exact_toJson (step : PlannedStep) : Exact step.toJson := by
  cases step with
  | collection name state => simp [PlannedStep.toJson, Exact, Json.ExactMembers]
  | index owner spec state =>
      simp [PlannedStep.toJson, Exact, Json.ExactMembers, spec.exact_toJson]

/-- A plan is printed by integers, texts and truth values only. -/
theorem BootstrapPlan.exact_members (plan : BootstrapPlan) : Exact (.object plan.members) := by
  have steps : Exact (Json.list PlannedStep.toJson plan.steps) :=
    Json.exact_list fun step _ => step.exact_toJson
  simp [BootstrapPlan.members, Exact, Json.ExactMembers, steps]

/-- A report is printed by integers, texts and truth values only. -/
theorem BootstrapReport.exact_members (stamp : RunStamp) (report : BootstrapReport) :
    Exact (.object (report.members stamp)) := by
  simp [BootstrapReport.members, Exact, Json.ExactMembers, Json.exact_strings]

end Results

theorem Json.fits_tagged {name : String} {value : Json} (fits : Fits value) :
    Fits (Bson.tagged name value) :=
  ⟨fits, trivial⟩

/-- Natural numbers of a machine word can be read back. -/
theorem Json.fits_word {n : Nat} (small : n < 2 ^ 64) : Fits (.integer n) := by
  constructor <;> omega

mutual

/-- Every integer in the form of a value comes from a machine word. -/
theorem Bson.fits_toJson (value : Bson) : Fits value.toJson := by
  cases value with
  | int32 value =>
      have least := value.le_toInt
      have greatest := value.toInt_lt
      rw [toJson]
      constructor <;> omega
  | int64 value =>
      have least := value.le_toInt
      have greatest := value.toInt_lt
      rw [toJson]
      constructor <;> omega
  | document fields => rw [toJson]; exact fitsMembers_fieldsToJson fields
  | array elements => rw [toJson]; exact fitsElements_elementsToJson elements
  | binary subtype bytes =>
      by_cases plain : subtype = 0
      · subst plain
        rw [toJson]
        refine (Json.fitsElements_iff _).mpr (List.forall_mem_map.mpr fun byte _ => ?_)
        exact Json.fits_word (by have := byte.toNat_lt; omega)
      · rw [toJson]
        · simp [tagged, Fits, Json.FitsMembers]
        · exact plain
  | timestamp time increment =>
      rw [toJson]
      have first := time.toNat_lt
      have second := increment.toNat_lt
      exact Json.fits_tagged ⟨Json.fits_word (by omega), Json.fits_word (by omega), trivial⟩
  | scopedJavaScript code scope =>
      rw [toJson]
      exact ⟨trivial, fitsMembers_fieldsToJson scope, trivial⟩
  | _ => rw [toJson]; simp [tagged, Fits, Json.FitsMembers]

/-- Every integer in the form of a document comes from a machine word. -/
theorem Bson.fitsMembers_fieldsToJson (fields : List (String × Bson)) :
    Json.FitsMembers (fieldsToJson fields) := by
  cases fields with
  | nil => rw [fieldsToJson]; trivial
  | cons field rest =>
      obtain ⟨name, value⟩ := field
      rw [fieldsToJson]
      exact ⟨fits_toJson value, fitsMembers_fieldsToJson rest⟩

/-- Every integer in the forms of elements comes from a machine word. -/
theorem Bson.fitsElements_elementsToJson (elements : List Bson) :
    Json.FitsElements (elementsToJson elements) := by
  cases elements with
  | nil => rw [elementsToJson]; trivial
  | cons element rest =>
      rw [elementsToJson]
      exact ⟨fits_toJson element, fitsElements_elementsToJson rest⟩

end

section Documents

/-- The keys of an index may be any values, also doubles. -/
theorem ExistingIndex.fits_toJson (index : ExistingIndex) : Fits index.toJson := by
  have keys : Fits index.keys.toJson := Bson.fits_toJson (.document index.keys)
  simp [ExistingIndex.toJson, Fits, Json.FitsMembers, keys]

theorem IndexMismatch.fits_toJson (mismatch : IndexMismatch) : Fits mismatch.toJson := by
  have expected := Json.fits_of_exact _ mismatch.expected.exact_toJson
  simp [IndexMismatch.toJson, Fits, Json.FitsMembers, expected, mismatch.actual.fits_toJson]

/-- A verification fits, although it repeats keys as they were found. -/
theorem Verification.fits_members (verification : Verification) :
    Fits (.object verification.members) := by
  have mismatches : Fits (Json.list IndexMismatch.toJson verification.shortfall.mismatches) :=
    Json.fits_list fun mismatch _ => mismatch.fits_toJson
  have collections := Json.fits_of_exact _ (Json.exact_strings verification.shortfall.collections)
  have indexes := Json.fits_of_exact _ (Json.exact_strings verification.shortfall.indexes)
  simp [Verification.members, Fits, Json.FitsMembers, mismatches, collections, indexes]

namespace CommandOutput

variable (stamp : RunStamp)

/-- The document of a result other than a comparison is read back as it is. -/
theorem exact_toJson {output : CommandOutput}
    (other : ∀ verification, output ≠ .verification verification) :
    Exact (output.toJson stamp) := by
  cases output with
  | plan result => exact result.exact_members
  | report result => exact result.exact_members stamp
  | verification result => exact absurd rfl (other result)
  | schema definition => exact definition.exact_toJson

/-- Every integer in the document of a result fits a machine word. -/
theorem fits_toJson (output : CommandOutput) : Fits (output.toJson stamp) := by
  cases output with
  | verification result => exact result.fits_members
  | _ => exact Json.fits_of_exact _ (exact_toJson stamp nofun)

/-- Reading leaves what a document says of success. -/
theorem success_reread (output : CommandOutput) :
    (output.toJson stamp).reread.member? "success" = (output.toJson stamp).member? "success" := by
  cases output with
  | verification result =>
      -- Doubles among the keys may be read as other ones, but not at the top.
      have distinct : (result.members.map Prod.fst).Nodup := by simp [Verification.members]
      change (Json.object result.members).reread.member? "success" = _
      rw [Json.member?_reread distinct]
      rfl
  | _ =>
      exact congrArg (Json.member? "success") (Json.reread_of_exact _ (exact_toJson stamp nofun))

end CommandOutput

end Documents

end SchemaBootstrap

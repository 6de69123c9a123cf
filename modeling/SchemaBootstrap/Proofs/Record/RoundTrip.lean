import Mathlib.Data.Option.Basic
import SchemaBootstrap.Proofs.Bson.Resolution
import SchemaBootstrap.Proofs.Decoding.ReadFields
import SchemaBootstrap.Record.Kinds

/-! # Records read back

A record is read back from the document that it is written as, whatever optional fields it
has. What counts is only the values of any type that it embeds: where one is read, the value
that it stands for comes back (`Prompt.ofDocument_toDocument` and the like), so it has to stand
for itself (`Bson.resolve_eq_self_iff`). A response that is null is not told apart from one that
is absent (`records_read_back`).
-/

namespace SchemaBootstrap

open CollectionRecord
open Fields (yields_required yields_defaulted)

/-- A value is read as a present one unless it is null. -/
theorem Bson.readOption_eq_some_iff (read : Bson → Except DecodeFault α) (value : Bson)
    (content : α) :
    readOption read value = .ok (some content) ↔ value ≠ .null ∧ read value = .ok content := by
  unfold readOption
  split
  · exact iff_of_false nofun fun present => present.1 rfl
  · next present =>
      rw [and_iff_right present]
      exact map_eq_ok_iff _ content (Option.some_injective α)

/-- A record comes out with a certain content of one field when that content is read. -/
theorem read_eq_ok_iff {put : α → ρ} (injective : Function.Injective put) (name : String)
    (result : Except DecodeFault α) (content : α) :
    (result.mapError (DecodeFault.within name)).map put = .ok (put content) ↔
      result = .ok content :=
  (map_eq_ok_iff _ _ injective).trans (mapError_eq_ok_iff _ _ _)

/-- A tokenizer is read back with the document that its own stands for. -/
theorem Tokenizer.ofDocument_toDocument (record : Tokenizer) :
    ofDocument (toDocument record) =
      ((Bson.readDocument (.document record.tokenizer)).mapError (.within "tokenizer")).map
        fun tokenizer => { record with tokenizer } := by
  obtain ⟨id, hash, tokenizer⟩ := record
  -- The fields before are read by computing; the result of the last one is left open.
  cases id <;>
  · refine Eq.trans (Fields.Yields.run
      (.seq (fun _ => rfl) (yields_defaulted (.document tokenizer) rfl _ _))) ?_
    cases Bson.readDocument (.document tokenizer) <;> rfl

theorem Task.ofDocument_toDocument (record : Task) :
    ofDocument (toDocument record) = .ok record := by
  obtain ⟨id, framework, tasks, requesterArgs, blacklist, quantity, totalInstances, requestType,
    done⟩ := record
  have single : ∀ number : Int64, Bson.readInteger (.int64 number) = .ok number := fun _ => rfl
  have back : Bson.readList Bson.readInteger (.array (blacklist.map .int64)) = .ok blacklist :=
    readEach_map single blacklist
  cases id <;>
  · refine Eq.trans (Fields.Yields.run (.seq (.seq (.seq (.seq (.seq (fun _ => rfl)
      (yields_defaulted (.array (blacklist.map .int64)) rfl _ _)) (fun _ => rfl))
      (fun _ => rfl)) (fun _ => rfl)) (fun _ => rfl))) ?_
    rw [back]
    rfl

theorem Instance.ofDocument_toDocument (record : Instance) :
    ofDocument (toDocument record) = .ok record := by
  obtain ⟨id, taskId, done⟩ := record
  cases id <;> rfl

theorem Node.ofDocument_toDocument (record : Node) :
    ofDocument (toDocument record) = .ok record := by
  obtain ⟨id, address, service⟩ := record
  cases id <;> rfl

/-- A prompt is read back with the value that its data stand for. -/
theorem Prompt.ofDocument_toDocument (record : Prompt) :
    ofDocument (toDocument record) =
      (record.data.resolve.mapError (.within "data")).map fun data => { record with data } := by
  obtain ⟨id, taskId, instanceId, data, timeout, done⟩ := record
  cases id <;>
  · refine Eq.trans (Fields.Yields.run (.seq (.seq (.seq (fun _ => rfl)
      (yields_required data rfl _)) (fun _ => rfl)) (fun _ => rfl))) ?_
    cases data.resolve <;> rfl

/-- A response is read back with the value that its own stands for, and null is absence. -/
theorem Response.ofDocument_toDocument (record : Response) {response : Bson}
    (present : record.response = some response) :
    ofDocument (toDocument record) =
      ((Bson.readOption Bson.resolve response).mapError (.within "response")).map
        fun response => { record with response } := by
  obtain ⟨id, taskId, instanceId, promptId, succeeded, _, error⟩ := record
  cases present
  cases id <;> cases error <;>
  · refine Eq.trans (Fields.Yields.run (.seq (.seq (fun _ => rfl)
      (yields_defaulted response rfl _ _)) (fun _ => rfl))) ?_
    cases Bson.readOption Bson.resolve response <;> rfl

/-- A response without an answer is read back. -/
theorem Response.ofDocument_toDocument_of_absent (record : Response)
    (absent : record.response = none) : ofDocument (toDocument record) = .ok record := by
  obtain ⟨id, taskId, instanceId, promptId, succeeded, _, error⟩ := record
  cases absent
  cases id <;> cases error <;> rfl

/-- A tokenizer is read back if its document is proper and plain. -/
theorem Tokenizer.read_back_iff (record : Tokenizer) :
    ofDocument (toDocument record) = .ok record ↔
      (Bson.document record.tokenizer).Proper ∧ (Bson.document record.tokenizer).Plain := by
  rw [record.ofDocument_toDocument, ← Bson.readDocument_eq_self_iff]
  exact read_eq_ok_iff (fun _ _ same => (mk.inj same).2.2) _ _ record.tokenizer

/-- A prompt is read back if its data are proper and plain. -/
theorem Prompt.read_back_iff (record : Prompt) :
    ofDocument (toDocument record) = .ok record ↔ record.data.Proper ∧ record.data.Plain := by
  rw [record.ofDocument_toDocument, ← Bson.resolve_eq_self_iff]
  exact read_eq_ok_iff (fun _ _ same => (mk.inj same).2.2.2.1) _ _ record.data

/-- A response is read back unless its answer is null, or not proper and plain. -/
theorem Response.read_back_iff (record : Response) :
    ofDocument (toDocument record) = .ok record ↔
      ∀ value, record.response = some value → value ≠ .null ∧ value.Proper ∧ value.Plain := by
  obtain ⟨id, taskId, instanceId, promptId, succeeded, response, error⟩ := record
  cases response with
  | none => exact iff_of_true (ofDocument_toDocument_of_absent _ rfl) nofun
  | some response =>
      simp only [Option.some.injEq, forall_eq']
      rw [ofDocument_toDocument _ rfl, ← Bson.resolve_eq_self_iff, ← Bson.readOption_eq_some_iff]
      exact read_eq_ok_iff (fun _ _ same => (mk.inj same).2.2.2.2.2.1) _ _ (some response)

/-- A response that is null is read as one that is absent. -/
theorem Response.read_back_of_null (record : Response) (null : record.response = some .null) :
    ofDocument (toDocument record) = .ok { record with response := none } := by
  rw [record.ofDocument_toDocument null]
  rfl

/-- **Records are read back.** Tasks, instances and nodes are read back as they were, whatever
they contain. The other records are read back as they were exactly when the values of any type
that they embed stand for themselves, except that a response that is null is read as an absent
one. -/
theorem records_read_back :
    (∀ record : Tokenizer, ofDocument (toDocument record) = .ok record ↔
      (Bson.document record.tokenizer).Proper ∧ (Bson.document record.tokenizer).Plain) ∧
    (∀ record : Task, ofDocument (toDocument record) = .ok record) ∧
    (∀ record : Instance, ofDocument (toDocument record) = .ok record) ∧
    (∀ record : Prompt, ofDocument (toDocument record) = .ok record ↔
      record.data.Proper ∧ record.data.Plain) ∧
    (∀ record : Response,
      (ofDocument (toDocument record) = .ok record ↔
        ∀ value, record.response = some value → value ≠ .null ∧ value.Proper ∧ value.Plain) ∧
      (record.response = some .null →
        ofDocument (toDocument record) = .ok { record with response := none })) ∧
    (∀ record : Node, ofDocument (toDocument record) = .ok record) :=
  ⟨Tokenizer.read_back_iff, Task.ofDocument_toDocument, Instance.ofDocument_toDocument,
    Prompt.read_back_iff, fun record => ⟨record.read_back_iff, record.read_back_of_null⟩,
    Node.ofDocument_toDocument⟩

/-- A null response is written as a field, and the record that is read back has none. -/
theorem null_response_not_read_back :
    ofDocument (toDocument (⟨none, ⟨1⟩, ⟨2⟩, ⟨3⟩, true, some .null, none⟩ : Response)) =
        .ok (⟨none, ⟨1⟩, ⟨2⟩, ⟨3⟩, true, none, none⟩ : Response) ∧
      ofDocument (toDocument (⟨none, ⟨1⟩, ⟨2⟩, ⟨3⟩, true, some .null, none⟩ : Response)) ≠
        .ok (⟨none, ⟨1⟩, ⟨2⟩, ⟨3⟩, true, some .null, none⟩ : Response) := by
  have read : ofDocument (toDocument (⟨none, ⟨1⟩, ⟨2⟩, ⟨3⟩, true, some .null, none⟩ : Response)) =
      .ok (⟨none, ⟨1⟩, ⟨2⟩, ⟨3⟩, true, none, none⟩ : Response) := rfl
  refine ⟨read, fun same => ?_⟩
  cases read.symm.trans same

end SchemaBootstrap

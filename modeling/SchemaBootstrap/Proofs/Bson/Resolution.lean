import SchemaBootstrap.Bson.Extended
import SchemaBootstrap.Proofs.Bson.Sameness
import SchemaBootstrap.Proofs.Decoding.ReadFields
import SchemaBootstrap.Proofs.Schema.IndexKeys

/-! # Values that stand for themselves

Where any value may stand, a document with a field that names a type is taken for a value of
that type. Documents without such fields stay documents, and their fields are put down one
after the other (`Bson.resolveFields_eq_document_iff`). So a value stands for itself exactly
when no field in it, at any depth, names a type, no document in it has two fields with one
name, and the options of regular expressions are in order (`Bson.resolve_eq_self_iff`).
-/

namespace SchemaBootstrap

namespace Bson

/-- The names of fields that make a document stand for a value of a type. -/
def typeNames : List String :=
  ["$oid", "$symbol", "$numberInt", "$numberLong", "$numberDouble", "$numberDecimal",
    "$numberDecimalBytes", "$binary", "$uuid", "$timestamp", "$regularExpression", "$dbPointer",
    "$date", "$minKey", "$maxKey", "$undefined", "$code", "$scope"]

mutual

/-- No field in a value names a type, and the options of regular expressions are in order. -/
def Plain : Bson → Prop
  | .document fields => PlainFields fields
  | .array elements => PlainElements elements
  | .scopedJavaScript _ scope => PlainFields scope
  | .regex _ options => sortedOptions options = options
  | _ => True

/-- Fields have names that name no type, and plain values. -/
def PlainFields : List (String × Bson) → Prop
  | [] => True
  | (name, value) :: rest => name ∉ typeNames ∧ Plain value ∧ PlainFields rest

/-- All values of a list are plain. -/
def PlainElements : List Bson → Prop
  | [] => True
  | value :: rest => Plain value ∧ PlainElements rest

end

theorem properFields_iff (fields : List (String × Bson)) :
    ProperFields fields ↔
      (fields.map Prod.fst).Nodup ∧ ∀ field ∈ fields, field.2.Proper := by
  induction fields with
  | nil => simp only [ProperFields, List.map_nil, List.nodup_nil, List.not_mem_nil,
      false_implies, implies_true, and_self]
  | cons field rest ih =>
      rw [ProperFields, ih, List.map_cons, List.nodup_cons, List.forall_mem_cons]
      tauto

theorem properElements_iff (elements : List Bson) :
    ProperElements elements ↔ ∀ value ∈ elements, value.Proper := by
  induction elements with
  | nil => simp only [ProperElements, List.not_mem_nil, false_implies, implies_true]
  | cons value rest ih => rw [ProperElements, ih, List.forall_mem_cons]

theorem plainFields_iff (fields : List (String × Bson)) :
    PlainFields fields ↔ ∀ field ∈ fields, field.1 ∉ typeNames ∧ field.2.Plain := by
  induction fields with
  | nil => simp only [PlainFields, List.not_mem_nil, false_implies, implies_true]
  | cons field rest ih => rw [PlainFields, ih, List.forall_mem_cons, and_assoc]

theorem plainElements_iff (elements : List Bson) :
    PlainElements elements ↔ ∀ value ∈ elements, value.Plain := by
  induction elements with
  | nil => simp only [PlainElements, List.not_mem_nil, false_implies, implies_true]
  | cons value rest ih => rw [PlainElements, ih, List.forall_mem_cons]

/-! ## What a name of a type yields -/

/-- A result is a fault or a value of another type than documents. -/
def NoDocument (result : Except DecodeFault Bson) : Prop :=
  ∀ fields, result ≠ .ok (.document fields)

namespace NoDocument

theorem error (fault : DecodeFault) : NoDocument (.error fault) :=
  nofun

theorem ok {value : Bson} (other : ∀ fields, value ≠ .document fields) :
    NoDocument (.ok value) :=
  fun fields same => other fields (Except.ok.inj same)

/-- What goes on to something that is no document is none. -/
theorem bind {next : α → Except DecodeFault Bson} (result : Except DecodeFault α)
    (other : ∀ content, NoDocument (next content)) : NoDocument (result.bind next) := by
  cases result with
  | error fault => exact error fault
  | ok content => exact other content

/-- What is made into something that is no document is none. -/
theorem map {make : α → Bson} (result : Except DecodeFault α)
    (other : ∀ content fields, make content ≠ .document fields) : NoDocument (result.map make) := by
  cases result with
  | error fault => exact error fault
  | ok content => exact ok (other content)

end NoDocument

theorem noDocument_readDecimalBytes (value : Bson) : NoDocument (readDecimalBytes value) := by
  refine NoDocument.bind _ fun bytes => ?_
  split
  · exact .ok nofun
  · exact .error _

theorem noDocument_readBinary (value : Bson) : NoDocument (readBinary value) := by
  refine NoDocument.bind _ fun ⟨base64, subtype⟩ =>
    NoDocument.bind _ fun bytes => NoDocument.bind _ fun subtypes => ?_
  split
  · exact .ok nofun
  · exact .error _

theorem noDocument_readPointer (value : Bson) : NoDocument (readPointer value) := by
  refine NoDocument.bind _ fun ⟨collection, id⟩ => ?_
  dsimp only
  split
  · exact .ok nofun
  · exact .error _

theorem noDocument_readMoment (value : Bson) : NoDocument (readMoment value) := by
  unfold readMoment
  split
  · exact .map _ nofun
  · exact .map _ nofun
  · exact .error _

/-- What a key of a type leads to is no document, unless the key's value was one. -/
theorem noDocument_readKey {key : Bson} (other : ∀ fields, key ≠ .document fields)
    (name : String) (value : Bson) : NoDocument (readKey name key value) := by
  refine NoDocument.bind _ fun number => ?_
  split
  · exact .ok other
  · exact .error _

theorem noDocument_readUndefined (value : Bson) : NoDocument (readUndefined value) := by
  refine NoDocument.bind _ fun isTrue => ?_
  split
  · exact .ok nofun
  · exact .error _

/-- A field whose name names a type never yields a document. -/
theorem noDocument_of_typed? {name : String} {value : Bson} {result : Except DecodeFault Bson}
    (typed : typed? name value = some result) : NoDocument result := by
  unfold typed? at typed
  split at typed <;> cases typed
  all_goals first
    | exact .map _ nofun
    | exact noDocument_readDecimalBytes value
    | exact noDocument_readBinary value
    | exact noDocument_readPointer value
    | exact noDocument_readMoment value
    | exact noDocument_readUndefined value
    | exact noDocument_readKey (by exact nofun) _ value

/-- Under a plain name nothing is read as a type. -/
theorem typed?_eq_none {name : String} (plain : name ∉ typeNames) (value : Bson) :
    typed? name value = none := by
  unfold typed?
  split <;> first
    | rfl
    | exact absurd (by decide) plain

/-- Under the name of a type, except those for code, something is read or refused. -/
theorem typed?_ne_none {name : String} (named : name ∈ typeNames) (notCode : name ≠ "$code")
    (notScope : name ≠ "$scope") (value : Bson) : typed? name value ≠ none := by
  simp only [typeNames, List.mem_cons, List.not_mem_nil, or_false, notCode, notScope] at named
  rcases named with rfl | rfl | rfl | rfl | rfl | rfl | rfl | rfl | rfl | rfl | rfl | rfl | rfl |
    rfl | rfl | rfl <;> exact Option.some_ne_none _

/-! ## Fields of documents -/

section Fields

variable (taken : Document) {name : String} (value : Bson) (rest : List (String × Bson))

/-- A first field with code is never kept as a document. -/
theorem noDocument_code : NoDocument (resolveFields taken (("$code", value) :: rest)) := by
  cases rest with
  | nil =>
      rw [resolveFields]
      exact .map _ nofun
  | cons field rest =>
      rw [resolveFields]
      refine .bind _ fun code => ?_
      split
      · exact .map _ nofun
      · exact .error _

/-- A first field with a scope is never kept as a document. -/
theorem noDocument_scope : NoDocument (resolveFields taken (("$scope", value) :: rest)) := by
  cases rest with
  | nil =>
      rw [resolveFields]
      exact .bind _ fun scope => .error _
  | cons field rest =>
      rw [resolveFields]
      refine .bind _ fun scope => ?_
      split
      · exact .map _ nofun
      · exact .error _

/-- Where a field names a type, no document comes out. -/
theorem noDocument_of_named (named : name ∈ typeNames) :
    NoDocument (resolveFields taken ((name, value) :: rest)) := by
  by_cases code : name = "$code"
  · exact code ▸ noDocument_code taken value rest
  by_cases scope : name = "$scope"
  · exact scope ▸ noDocument_scope taken value rest
  obtain ⟨result, typed⟩ := Option.ne_none_iff_exists'.mp (typed?_ne_none named code scope value)
  have decides : resolveFields taken ((name, value) :: rest) = result := by
    rw [resolveFields, typed]
    all_goals intros; contradiction
  exact decides ▸ noDocument_of_typed? typed

/-- A field whose name names no type is put down with the value that its own stands for. -/
theorem resolveFields_of_plain (plain : name ∉ typeNames) :
    resolveFields taken ((name, value) :: rest) =
      (resolve value).bind fun value => resolveFields (taken.put name value) rest := by
  have notCode : name ≠ "$code" := fun same => plain (same ▸ by decide)
  have notScope : name ≠ "$scope" := fun same => plain (same ▸ by decide)
  rw [resolveFields, typed?_eq_none plain]
  all_goals intros; contradiction

end Fields

/-- A field stays a field, with the value that its own stands for. -/
def FieldResolves (field resolved : String × Bson) : Prop :=
  resolved.1 = field.1 ∧ field.1 ∉ typeNames ∧ resolve field.2 = .ok resolved.2

/-- The fields of a document stand for a document when none of them names a type; it has the
resolved fields, put down one after the other. -/
theorem resolveFields_eq_document_iff (taken fields result : Document) :
    resolveFields taken fields = .ok (.document result) ↔
      ∃ resolved : Document, List.Forall₂ FieldResolves fields resolved ∧
        resolved.foldl (fun document field => document.put field.1 field.2) taken = result := by
  induction fields generalizing taken with
  | nil =>
      simp only [resolveFields, Except.ok.injEq, document.injEq, List.forall₂_nil_left_iff,
        exists_eq_left, List.foldl_nil]
  | cons field rest ih =>
      obtain ⟨name, value⟩ := field
      simp only [List.forall₂_cons_left_iff]
      by_cases named : name ∈ typeNames
      · refine iff_of_false (noDocument_of_named taken value rest named result) ?_
        rintro ⟨_, ⟨_, _, resolves, -, rfl⟩, -⟩
        exact resolves.2.1 named
      · rw [resolveFields_of_plain taken value rest named]
        constructor
        · intro done
          cases here : resolve value with
          | error fault => rw [here] at done; cases done
          | ok value' =>
              rw [here] at done
              obtain ⟨resolved, later, put⟩ := (ih _).mp done
              exact ⟨_, ⟨(name, value'), resolved, ⟨rfl, named, here⟩, later, rfl⟩, put⟩
        · rintro ⟨_, ⟨⟨_, value'⟩, resolved, ⟨rfl, -, here⟩, later, rfl⟩, put⟩
          rw [here]
          exact (ih _).mpr ⟨resolved, later, put⟩

/-- Resolving fields keeps their names. -/
theorem names_of_resolves {fields resolved : Document}
    (each : List.Forall₂ FieldResolves fields resolved) : resolved.names = fields.names := by
  induction each with
  | nil => rfl
  | cons here _ ih =>
      rw [Document.names, List.map_cons, here.1]
      exact congrArg _ ih

/-- Fields stand for themselves when they have different names and each of them stays. -/
theorem resolveFields_eq_self_iff (fields : Document) :
    resolveFields [] fields = .ok (.document fields) ↔
      (fields.map Prod.fst).Nodup ∧ ∀ field ∈ fields, FieldResolves field field := by
  rw [resolveFields_eq_document_iff, ← List.forall₂_same]
  constructor
  · rintro ⟨resolved, each, put⟩
    have names := names_of_resolves each
    have distinct : fields.names.Nodup := put ▸ Document.nodup_names_ofFields resolved
    have same : Document.ofFields resolved = resolved :=
      Document.ofFields_of_nodup (names ▸ distinct)
    obtain rfl : resolved = fields := same.symm.trans put
    exact ⟨distinct, each⟩
  · rintro ⟨distinct, each⟩
    exact ⟨fields, each, Document.ofFields_of_nodup distinct⟩

/-- An array is kept as it is if all its elements are. -/
theorem resolveElements_eq_self_iff (elements : List Bson) :
    resolveElements elements = .ok elements ↔ ∀ value ∈ elements, resolve value = .ok value := by
  induction elements with
  | nil => simp only [resolveElements, List.not_mem_nil, false_implies, implies_true]
  | cons value rest ih =>
      rw [resolveElements, List.forall_mem_cons, ← ih]
      cases resolve value with
      | error fault => exact iff_of_false nofun nofun
      | ok first =>
          cases resolveElements rest with
          | error fault => exact iff_of_false nofun nofun
          | ok others =>
              change Except.ok (first :: others) = .ok (value :: rest) ↔ _
              simp only [Except.ok.injEq, List.cons.injEq]

/-! ## Values -/

/-- A document is kept as it is if it is proper and plain, provided that this holds of its values.
-/
theorem resolveFields_eq_self_iff_of_each {fields : Document}
    (each : ∀ field ∈ fields, (resolve field.2 = .ok field.2 ↔ field.2.Proper ∧ field.2.Plain)) :
    resolveFields [] fields = .ok (.document fields) ↔
      ProperFields fields ∧ PlainFields fields := by
  rw [resolveFields_eq_self_iff, properFields_iff, plainFields_iff, and_assoc,
    ← forall₂_and]
  refine and_congr_right fun _ => forall₂_congr fun field member => ?_
  rw [FieldResolves, each field member]
  tauto

/-- Only a document is taken as one. -/
theorem bind_asDocument_eq_ok_iff (result : Except DecodeFault Bson) (fields : Document) :
    result.bind asDocument = .ok fields ↔ result = .ok (.document fields) := by
  cases result with
  | error fault => exact iff_of_false nofun nofun
  | ok value =>
      change asDocument value = .ok fields ↔ _
      cases value <;> simp only [asDocument, Except.ok.injEq, document.injEq, reduceCtorEq]

mutual

/-- **What stands for itself.** -/
theorem resolve_eq_self_iff :
    (value : Bson) → (resolve value = .ok value ↔ value.Proper ∧ value.Plain)
  | .document fields => by
      rw [resolve, Proper, Plain]
      exact resolveFields_eq_self_iff_of_each (resolve_field_eq_self_iff fields)
  | .array elements => by
      rw [resolve, Proper, Plain, properElements_iff, plainElements_iff, ← forall₂_and,
        ← forall₂_congr (resolve_element_eq_self_iff elements), ← resolveElements_eq_self_iff]
      exact map_eq_ok_iff _ elements fun _ _ => array.inj
  | .scopedJavaScript code scope => by
      rw [resolve, Proper, Plain,
        ← resolveFields_eq_self_iff_of_each (resolve_field_eq_self_iff scope),
        ← bind_asDocument_eq_ok_iff]
      exact map_eq_ok_iff _ scope fun _ _ same => (scopedJavaScript.inj same).2
  | .regex pattern options => by
      simp only [resolve, Proper, Plain, true_and, Except.ok.injEq, regex.injEq]
  | .null | .bool _ | .string _ | .int32 _ | .int64 _ | .double _ | .objectId _ | .dateTime _
  | .decimal _ | .binary _ _ | .timestamp _ _ | .symbol _ | .javaScript _ | .pointer _ _
  | .minKey | .maxKey | .undefined => by
      simp only [resolve, Proper, Plain, and_self]

/-- The values of fields are kept if and only if they are proper and plain. -/
theorem resolve_field_eq_self_iff : (fields : List (String × Bson)) → ∀ field ∈ fields,
    (resolve field.2 = .ok field.2 ↔ field.2.Proper ∧ field.2.Plain)
  | [] => nofun
  | (_, value) :: rest =>
      List.forall_mem_cons.mpr ⟨resolve_eq_self_iff value, resolve_field_eq_self_iff rest⟩

/-- The elements of an array are kept if and only if they are proper and plain. -/
theorem resolve_element_eq_self_iff : (elements : List Bson) → ∀ value ∈ elements,
    (resolve value = .ok value ↔ value.Proper ∧ value.Plain)
  | [] => nofun
  | value :: rest =>
      List.forall_mem_cons.mpr ⟨resolve_eq_self_iff value, resolve_element_eq_self_iff rest⟩

end

/-- A field that names a type decides, wherever it stands. -/
example : resolve (.array [.document [("a", .null), ("$symbol", .string "x")]]) =
    .ok (.array [.symbol "x"]) := rfl

/-- An embedded document is read as it is when it stands for itself. -/
theorem readDocument_eq_self_iff (fields : Document) :
    readDocument (.document fields) = .ok fields ↔
      (document fields).Proper ∧ (document fields).Plain :=
  (bind_asDocument_eq_ok_iff _ fields).trans (resolve_eq_self_iff (.document fields))

end Bson

end SchemaBootstrap

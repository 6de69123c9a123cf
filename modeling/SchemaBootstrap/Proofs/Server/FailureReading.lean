import SchemaBootstrap.Proofs.Bootstrap.ReadinessWait
import SchemaBootstrap.Server.Connection

/-! # How failures at a server are read

A failure is read by its kind, which tells whether the server was out of reach
(`ServerFailure.OutOfReach`), and by the code with which the server refused something
(`ServerFailure.RefusedWith`). No failure is both. An operation at a server (`ServerOperation`)
has a meaning for some codes and reads every other failure as all operations do; its rules
(`ServerOperation.Reads`) are what the program follows (`ServerOperation.outcome_eq_iff`). So
whether a failure is a connection error, after which another try may help, depends on the
failure alone (`ServerOperation.failures_read_alike`). The listing of indexes has two steps, and
only a refusal of the first tells that there is no collection
(`ServerCommand.answer_listIndexes_eq_ok_iff`).
-/

namespace SchemaBootstrap

namespace ServerFailure

/-- The kinds of failures after which nothing is known of the server, with any labels. -/
inductive OutOfReach : ServerFailure → Prop
  | io (detail : String) : OutOfReach (.io detail)
  | serverSelection (detail : String) : OutOfReach (.serverSelection detail)
  | connectionPoolCleared (detail : String) : OutOfReach (.connectionPoolCleared detail)
  | dnsResolve (detail : String) : OutOfReach (.dnsResolve detail)
  | labelled {failure : ServerFailure} (labels : List String) (unreached : OutOfReach failure) :
      OutOfReach (.labelled labels failure)

/-- The server refuses a command or a write with a code, with any labels. The code of a write
that is not confirmed as widely as asked does not count: such a write is not refused. -/
inductive RefusedWith (code : Int32) : ServerFailure → Prop
  | command (name detail : String) : RefusedWith code (.command code name detail)
  | write (name : Option String) (detail : String) : RefusedWith code (.write code name detail)
  | labelled {failure : ServerFailure} (labels : List String)
      (refused : RefusedWith code failure) : RefusedWith code (.labelled labels failure)

variable {failure : ServerFailure} {code : Int32}

/-- A failure counts as unreachable by its kind, whatever its labels. -/
theorem isUnreachable_iff : failure.isUnreachable = true ↔ failure.OutOfReach := by
  constructor
  · intro unreachable
    induction failure with
    | io detail => exact .io detail
    | serverSelection detail => exact .serverSelection detail
    | connectionPoolCleared detail => exact .connectionPoolCleared detail
    | dnsResolve detail => exact .dnsResolve detail
    | labelled labels failure ih => exact .labelled labels (ih unreachable)
    | _ => cases unreachable
  · intro unreached
    induction unreached with
    | labelled labels unreached ih => exact ih
    | _ => rfl

theorem code?_eq_some_iff : failure.code? = some code ↔ failure.RefusedWith code := by
  constructor
  · intro coded
    induction failure with
    | command code' name detail => cases coded; exact .command name detail
    | write code' name detail => cases coded; exact .write name detail
    | labelled labels failure ih => exact .labelled labels (ih coded)
    | _ => cases coded
  · intro refused
    induction refused with
    | labelled labels refused ih => exact ih
    | _ => rfl

/-- A server that refuses something has been reached. -/
theorem RefusedWith.not_outOfReach (refused : failure.RefusedWith code) :
    ¬ failure.OutOfReach := by
  intro unreached
  induction refused with
  | labelled labels refused ih =>
      cases unreached with
      | labelled labels unreached => exact ih unreached
  | _ => cases unreached

end ServerFailure

/-- What a server is asked for, as far as the reading of a failure depends on it. -/
inductive ServerOperation where
  /-- To create a collection. -/
  | creation
  /-- To create an index on a collection. -/
  | indexing (collection index : String)
  /-- To write to a collection. -/
  | writing (collection : String)
  /-- Anything for which no code has a meaning. -/
  | other

namespace ServerOperation

open ServerFailure

/-- What becomes of an operation with a failure. -/
def outcome (failure : ServerFailure) : ServerOperation → Except StoreError CollectionOutcome
  | creation => failure.ofCreation
  | indexing collection index => .error (failure.ofIndex collection index)
  | writing collection => .error (failure.ofWrite collection)
  | other => .error failure.classify

/-- The codes that have a meaning for an operation. -/
def codes : ServerOperation → List Int32
  | creation => [namespaceExists]
  | indexing _ _ => [indexOptionsConflict, indexKeySpecsConflict, duplicateKey]
  | writing _ => [duplicateKey]
  | other => []

/-- The rules by which an operation reads a failure. -/
inductive Reads (failure : ServerFailure) :
    ServerOperation → Except StoreError CollectionOutcome → Prop
  | away (unreached : failure.OutOfReach) (operation : ServerOperation) :
      Reads failure operation (.error (.connection failure.message))
  | present (refused : failure.RefusedWith namespaceExists) :
      Reads failure creation (.ok .alreadyExists)
  | conflict (collection index : String)
      (refused : failure.RefusedWith indexOptionsConflict ∨
        failure.RefusedWith indexKeySpecsConflict) :
      Reads failure (indexing collection index)
        (.error (.indexConflict collection index failure.message))
  | indexedTwice (collection index : String) (refused : failure.RefusedWith duplicateKey) :
      Reads failure (indexing collection index) (.error (.duplicateKey collection failure.message))
  | writtenTwice (collection : String) (refused : failure.RefusedWith duplicateKey) :
      Reads failure (writing collection) (.error (.duplicateKey collection failure.message))
  | unlisted (reached : ¬ failure.OutOfReach) (operation : ServerOperation)
      (meaningless : ∀ code ∈ operation.codes, ¬ failure.RefusedWith code) :
      Reads failure operation (.error (.backend failure.message))

variable {failure : ServerFailure} {operation : ServerOperation}
  {result : Except StoreError CollectionOutcome}

/-- A failure of a server that was reached is one of the backend. -/
theorem classify_of_reached (reached : ¬ failure.OutOfReach) :
    failure.classify = .backend failure.message := by
  rw [← isUnreachable_iff] at reached
  exact if_neg reached

/-- A failure out of reach has no code that any operation could look at. -/
theorem code?_of_outOfReach (unreached : failure.OutOfReach) : failure.code? = none := by
  cases coded : failure.code? with
  | none => rfl
  | some code => exact absurd unreached (code?_eq_some_iff.mp coded).not_outOfReach

/-- The rules say what an outcome is. -/
theorem Reads.outcome_eq (reads : Reads failure operation result) :
    operation.outcome failure = result := by
  cases reads with
  | away unreached operation =>
      have uncoded := code?_of_outOfReach unreached
      have away : failure.classify = .connection failure.message :=
        if_pos (isUnreachable_iff.mpr unreached)
      cases operation <;>
        simp only [outcome, ofCreation, ofIndex, ofWrite, uncoded, reduceCtorEq, or_self,
          ↓reduceIte, away]
  | present refused =>
      rw [outcome, ofCreation, if_pos (code?_eq_some_iff.mpr refused)]
  | conflict collection index refused =>
      rw [← code?_eq_some_iff, ← code?_eq_some_iff] at refused
      rw [outcome, ofIndex, if_pos refused]
  | indexedTwice collection index refused =>
      have coded := code?_eq_some_iff.mpr refused
      have other : ¬ (failure.code? = some indexOptionsConflict ∨
          failure.code? = some indexKeySpecsConflict) := by
        rw [coded]
        decide
      rw [outcome, ofIndex, if_neg other, if_pos coded]
  | writtenTwice collection refused =>
      rw [outcome, ofWrite, if_pos (code?_eq_some_iff.mpr refused)]
  | unlisted reached operation meaningless =>
      have plain := classify_of_reached reached
      simp only [← code?_eq_some_iff] at meaningless
      cases operation with
      | creation =>
          have new := meaningless namespaceExists (by simp [codes])
          simp only [outcome, ofCreation, new, ↓reduceIte, plain]
      | indexing collection index =>
          have optioned := meaningless indexOptionsConflict (by simp [codes])
          have keyed := meaningless indexKeySpecsConflict (by simp [codes])
          have single := meaningless duplicateKey (by simp [codes])
          simp only [outcome, ofIndex, optioned, keyed, single, or_self, ↓reduceIte, plain]
      | writing collection =>
          have single := meaningless duplicateKey (by simp [codes])
          simp only [outcome, ofWrite, single, ↓reduceIte, plain]
      | other => rw [outcome, plain]

/-- Every failure is read by one of the rules. -/
theorem exists_reads (failure : ServerFailure) (operation : ServerOperation) :
    ∃ result, Reads failure operation result := by
  by_cases unreached : failure.OutOfReach
  · exact ⟨_, .away unreached operation⟩
  by_cases meaningless : ∀ code ∈ operation.codes, ¬ failure.RefusedWith code
  · exact ⟨_, .unlisted unreached operation meaningless⟩
  · -- What is left carries one of the codes of the operation, for each of which there is a rule.
    obtain ⟨code, member, refused⟩ : ∃ code ∈ operation.codes, failure.RefusedWith code := by
      simpa using meaningless
    cases operation with
    | creation =>
        obtain rfl := List.mem_singleton.mp member
        exact ⟨_, .present refused⟩
    | indexing collection index =>
        obtain rfl | rfl | rfl : code = indexOptionsConflict ∨ code = indexKeySpecsConflict ∨
            code = duplicateKey := by simpa [codes] using member
        · exact ⟨_, .conflict collection index (.inl refused)⟩
        · exact ⟨_, .conflict collection index (.inr refused)⟩
        · exact ⟨_, .indexedTwice collection index refused⟩
    | writing collection =>
        obtain rfl := List.mem_singleton.mp member
        exact ⟨_, .writtenTwice collection refused⟩
    | other => cases member

/-- An outcome is what the rules say, and nothing else. -/
theorem outcome_eq_iff : operation.outcome failure = result ↔ Reads failure operation result := by
  constructor
  · rintro rfl
    obtain ⟨result, reads⟩ := exists_reads failure operation
    rwa [reads.outcome_eq]
  · exact Reads.outcome_eq

/-- A connection error means that the server is out of reach. -/
theorem outcome_eq_connection_iff (detail : String) :
    operation.outcome failure = .error (.connection detail) ↔
      failure.OutOfReach ∧ detail = failure.message := by
  rw [outcome_eq_iff]
  constructor
  · intro reads
    cases reads with
    | away unreached operation => exact ⟨unreached, rfl⟩
  · rintro ⟨unreached, rfl⟩
    exact .away unreached operation

/-- Only a collection that exists already turns a failure into a success. -/
theorem outcome_eq_ok_iff (present : CollectionOutcome) :
    operation.outcome failure = .ok present ↔
      present = .alreadyExists ∧ operation = creation ∧ failure.RefusedWith namespaceExists := by
  rw [outcome_eq_iff]
  constructor
  · intro reads
    cases reads with
    | present refused => exact ⟨rfl, rfl, refused⟩
  · rintro ⟨rfl, rfl, refused⟩
    exact .present refused

/-- An index conflict means that the creation of an index was refused with one of two codes. -/
theorem outcome_eq_indexConflict_iff (collection index detail : String) :
    operation.outcome failure = .error (.indexConflict collection index detail) ↔
      operation = indexing collection index ∧
        (failure.RefusedWith indexOptionsConflict ∨ failure.RefusedWith indexKeySpecsConflict) ∧
        detail = failure.message := by
  rw [outcome_eq_iff]
  constructor
  · intro reads
    cases reads with
    | conflict collection index refused => exact ⟨rfl, refused, rfl⟩
  · rintro ⟨rfl, refused, rfl⟩
    exact .conflict collection index refused

/-- A duplicate key means that an index or a document was refused for it. -/
theorem outcome_eq_duplicateKey_iff (collection detail : String) :
    operation.outcome failure = .error (.duplicateKey collection detail) ↔
      ((∃ index, operation = indexing collection index) ∨ operation = writing collection) ∧
        failure.RefusedWith duplicateKey ∧ detail = failure.message := by
  rw [outcome_eq_iff]
  constructor
  · intro reads
    cases reads with
    | indexedTwice collection index refused => exact ⟨.inl ⟨index, rfl⟩, refused, rfl⟩
    | writtenTwice collection refused => exact ⟨.inr rfl, refused, rfl⟩
  · rintro ⟨⟨index, rfl⟩ | rfl, refused, rfl⟩
    · exact .indexedTwice collection index refused
    · exact .writtenTwice collection refused

/-- All other failures of a server that was reached are those of the backend. -/
theorem outcome_eq_backend_iff (detail : String) :
    operation.outcome failure = .error (.backend detail) ↔
      ¬ failure.OutOfReach ∧ (∀ code ∈ operation.codes, ¬ failure.RefusedWith code) ∧
        detail = failure.message := by
  rw [outcome_eq_iff]
  constructor
  · intro reads
    cases reads with
    | unlisted reached operation meaningless => exact ⟨reached, meaningless, rfl⟩
  · rintro ⟨reached, meaningless, rfl⟩
    exact .unlisted reached operation meaningless

/-- No failure of a server is read as one of serialization. -/
theorem outcome_ne_serialization (detail : String) :
    operation.outcome failure ≠ .error (.serialization detail) := by
  rw [Ne, outcome_eq_iff]
  nofun

/-- **All operations read a failure alike** but for the codes that have a meaning for them. The
failure is a connection error, which is the only transient one, exactly if the server was out of
reach, and then it carries no code; every code but those that an operation has a meaning for
makes it a backend error. -/
theorem failures_read_alike (operation : ServerOperation) (failure : ServerFailure) :
    (∀ detail, operation.outcome failure = .error (.connection detail) ↔
      failure.OutOfReach ∧ detail = failure.message) ∧
    (∀ error, operation.outcome failure = .error error →
      (error.transient = true ↔ failure.OutOfReach)) ∧
    (∀ code, failure.RefusedWith code → ¬ failure.OutOfReach) ∧
    (∀ present, operation.outcome failure = .ok present ↔
      present = .alreadyExists ∧ operation = creation ∧ failure.RefusedWith 48) ∧
    (∀ collection index detail,
      operation.outcome failure = .error (.indexConflict collection index detail) ↔
        operation = indexing collection index ∧
          (failure.RefusedWith 85 ∨ failure.RefusedWith 86) ∧ detail = failure.message) ∧
    (∀ collection detail, operation.outcome failure = .error (.duplicateKey collection detail) ↔
      ((∃ index, operation = indexing collection index) ∨ operation = writing collection) ∧
        failure.RefusedWith 11000 ∧ detail = failure.message) ∧
    (∀ detail, operation.outcome failure = .error (.backend detail) ↔
      ¬ failure.OutOfReach ∧ (∀ code ∈ operation.codes, ¬ failure.RefusedWith code) ∧
        detail = failure.message) ∧
    ∀ detail, operation.outcome failure ≠ .error (.serialization detail) := by
  refine ⟨outcome_eq_connection_iff, fun error reported => ?_,
    fun code refused => refused.not_outOfReach, outcome_eq_ok_iff, outcome_eq_indexConflict_iff,
    outcome_eq_duplicateKey_iff, outcome_eq_backend_iff, outcome_ne_serialization⟩
  rw [StoreError.transient_iff]
  constructor
  · rintro ⟨detail, rfl⟩
    exact ((outcome_eq_connection_iff detail).mp reported).1
  · intro unreached
    refine ⟨failure.message, ?_⟩
    rw [Reads.outcome_eq (.away unreached operation)] at reported
    exact (Except.error.inj reported).symm

end ServerOperation

namespace ServerCommand

open ServerFailure

variable {collection : String}
  (reply : Except ServerFailure (Except ServerFailure (List IndexModel)))

/-- Indexes are listed as they come if the list ends well. A collection that is not there has
none, which the server tells by refusing to begin. -/
theorem answer_listIndexes_eq_ok_iff (present : List ExistingIndex) :
    answer (.listIndexes collection) reply = .ok present ↔
      (∃ models, reply = .ok (.ok models) ∧ present = IndexModel.existing models) ∨
      ∃ failure, reply = .error failure ∧ failure.RefusedWith namespaceNotFound ∧
        present = [] := by
  simp only [← code?_eq_some_iff]
  cases reply with
  | ok listing =>
      cases listing with
      | ok models => simp [answer, Except.map, Except.mapError, eq_comm]
      | error failure => simp [answer, Except.map, Except.mapError]
  | error failure =>
      by_cases absent : failure.code? = some namespaceNotFound
      · simp [answer, ofListing, absent, eq_comm]
      · simp [answer, ofListing, absent]

/-- All other failures are read as those of any operation are, also a refusal that comes once the
list has begun. -/
theorem answer_listIndexes_eq_error_iff (error : StoreError) :
    answer (.listIndexes collection) reply = .error error ↔
      ∃ failure, error = failure.classify ∧
        (reply = .ok (.error failure) ∨
          reply = .error failure ∧ ¬ failure.RefusedWith namespaceNotFound) := by
  simp only [← code?_eq_some_iff]
  cases reply with
  | ok listing =>
      cases listing with
      | ok models => simp [answer, Except.map, Except.mapError]
      | error failure => simp [answer, Except.map, Except.mapError, eq_comm]
  | error failure =>
      by_cases absent : failure.code? = some namespaceNotFound
      · simp [answer, ofListing, absent]
      · simp [answer, ofListing, absent, @eq_comm _ error]

end ServerCommand

end SchemaBootstrap

import SchemaBootstrap.Bootstrap.Bootstrapper
import SchemaBootstrap.Proofs.Schema.Validity
import SchemaBootstrap.Proofs.Store.Discipline
import SchemaBootstrap.Proofs.Store.Growth

/-! # The requests of a run, a plan and a comparison

Whatever a store answers, a run asks it once which collections there are, and after that its
requests are given by the answer (`SchemaDefinition.requests`): each collection is created
unless it is listed, then its indexes are listed and created. The first refusal ends the
run. Where nothing is refused, the report puts every declared collection and index into one
of its lists (`BootstrapReport.Accounts`). A plan and a comparison ask what there is, and
nothing else.
-/

namespace SchemaBootstrap

open Program

/-- The requests for a declared collection, given the collections that a store lists. -/
def CollectionSpec.requests (listed : List String) (declared : CollectionSpec) : List Request :=
  (if listed.contains declared.name then [] else [.createCollection declared.name]) ++
    if declared.indexes.isEmpty then []
    else .listIndexes declared.name :: declared.indexes.map (.createIndex declared.name)

/-- The requests for declared collections, given the collections that a store lists. -/
def SchemaDefinition.requests (definition : SchemaDefinition) (listed : List String) :
    List Request :=
  definition.collections.flatMap (CollectionSpec.requests listed)

/-- The requests after the store has answered which collections there are. -/
def SchemaDefinition.requestsAfter (definition : SchemaDefinition) :
    Answer .listCollections → List Request
  | .ok listed => definition.requests listed
  | .error _ => []

/-- The request asks what there is and changes nothing. -/
def Request.Inspects : Request → Prop
  | listCollections => True
  | listIndexes _ => True
  | _ => False

namespace Call

/-- The name of the collection that a call has created. -/
def createdCollection? : Call → Option String
  | ⟨.createCollection name, .ok .created⟩ => some name
  | _ => none

/-- The name under which a call for the creation of an index has been granted. -/
def ensuredIndex? : Call → Option String
  | ⟨.createIndex collection _, .ok name⟩ => some (qualifiedName collection name)
  | _ => none

/-- A call that creates a collection is the granted creation of this collection. -/
theorem createdCollection?_eq_some_iff (call : Call) (name : String) :
    call.createdCollection? = some name ↔ call = Call.created name := by
  constructor
  · intro found
    unfold createdCollection? at found
    split at found
    · cases found
      rfl
    · cases found
  · rintro rfl
    rfl

end Call

namespace Ensured

theorem createdNames_cons (entry : Ensured) (rest : List Ensured) :
    createdNames (entry :: rest) = createdNames [entry] ++ createdNames rest := by
  unfold createdNames
  rw [← List.singleton_append, List.filter_append, List.map_append]

/-- Every entry is listed either as created or as existing. -/
theorem names_perm (entries : List Ensured) :
    (createdNames entries ++ existingNames entries).Perm (entries.map Ensured.name) := by
  unfold createdNames existingNames
  rw [← List.map_append]
  exact (List.filter_append_perm Ensured.created entries).map Ensured.name

end Ensured

/-- What the entries for indexes have to do with the calls by which they have come about. -/
structure IndexEntries (count : Nat) (entries : List Ensured) (calls : List Call) : Prop where
  length : entries.length = count
  names : entries.map Ensured.name = calls.filterMap Call.ensuredIndex?
  noCollections : calls.filterMap Call.createdCollection? = []

/-- What the entries for collections and their indexes have to do with the calls by which
they have come about. -/
structure CollectionEntries (collections : List CollectionSpec)
    (entries : List Ensured × List Ensured) (calls : List Call) : Prop where
  names : entries.1.map Ensured.name = collections.map CollectionSpec.name
  created : Ensured.createdNames entries.1 = calls.filterMap Call.createdCollection?
  indexCount : entries.2.length = (collections.flatMap CollectionSpec.indexes).length
  indexNames : entries.2.map Ensured.name = calls.filterMap Call.ensuredIndex?

section Parts

/-- Indexes are asked for one after the other, in their order. -/
theorem ensureIndexes_keepsTo (collection : String) (present : List ExistingIndex)
    (specs : List IndexSpec) :
    (ensureIndexes collection present specs).KeepsTo
      (specs.map (.createIndex collection)) (IndexEntries specs.length) := by
  induction specs with
  | nil => exact keepsTo_pure ⟨rfl, rfl, rfl⟩
  | cons spec rest ih =>
      rw [ensureIndexes, List.map_cons, ← List.singleton_append]
      refine (keepsTo_request _).bind fun name made answered => ?_
      subst answered
      rw [← List.append_nil (rest.map _)]
      refine ih.bind fun later made entries => keepsTo_pure ?_
      rw [List.append_nil]
      constructor
      · rw [List.length_cons, entries.length, List.length_cons]
      · rw [List.map_cons, entries.names]
        rfl
      · exact entries.noCollections

/-- The indexes of a collection are listed once and then asked for in their order, if there are
any. -/
theorem ensureDeclared_keepsTo (declared : CollectionSpec) :
    (ensureDeclared declared).KeepsTo
      (if declared.indexes.isEmpty then []
        else .listIndexes declared.name :: declared.indexes.map (.createIndex declared.name))
      (IndexEntries declared.indexes.length) := by
  unfold ensureDeclared
  by_cases empty : declared.indexes.isEmpty = true
  · rw [if_pos empty, if_pos empty, List.isEmpty_iff.mp empty]
    exact keepsTo_pure ⟨rfl, rfl, rfl⟩
  · rw [if_neg empty, if_neg empty, ← List.singleton_append]
    refine (keepsTo_request _).bind fun present made answered => ?_
    subst answered
    exact (ensureIndexes_keepsTo declared.name present declared.indexes).imp
      fun _ _ entries => ⟨entries.length, entries.names, entries.noCollections⟩

/-- A collection is asked for if it was not listed, and the report says what was answered. -/
theorem ensureCollection_keepsTo (listed : List String) (name : String) :
    (ensureCollection listed name).KeepsTo
      (if listed.contains name then [] else [.createCollection name])
      fun entry calls => entry.name = name ∧
        Ensured.createdNames [entry] = calls.filterMap Call.createdCollection? ∧
        calls.filterMap Call.ensuredIndex? = [] := by
  unfold ensureCollection
  by_cases known : listed.contains name = true
  · rw [if_pos known, if_pos known]
    exact keepsTo_pure ⟨rfl, rfl, rfl⟩
  · rw [if_neg known, if_neg known, ← List.append_nil [Request.createCollection name]]
    refine (keepsTo_request _).bind fun outcome made answered => keepsTo_pure ?_
    subst answered
    cases outcome <;> exact ⟨rfl, rfl, rfl⟩

/-- The requests for collections follow the order in which they are declared. -/
theorem ensureCollections_keepsTo (listed : List String) (collections : List CollectionSpec) :
    (ensureCollections listed collections).KeepsTo
      (collections.flatMap (CollectionSpec.requests listed)) (CollectionEntries collections) := by
  induction collections with
  | nil => exact keepsTo_pure ⟨rfl, rfl, rfl, rfl⟩
  | cons declared rest ih =>
      rw [ensureCollections, List.flatMap_cons, CollectionSpec.requests, List.append_assoc]
      refine (ensureCollection_keepsTo listed declared.name).bind fun entry made₁ first => ?_
      obtain ⟨named, created, noIndexes⟩ := first
      refine (ensureDeclared_keepsTo declared).bind fun indexes made₂ second => ?_
      rw [← List.append_nil (rest.flatMap _)]
      refine ih.bind fun later made₃ third => keepsTo_pure ?_
      rw [List.append_nil]
      constructor
      · rw [List.map_cons, named, third.names, List.map_cons]
      · rw [Ensured.createdNames_cons, created, third.created, List.filterMap_append,
          List.filterMap_append, second.noCollections, List.nil_append]
      · rw [List.length_append, second.length, third.indexCount, List.flatMap_cons,
          List.length_append]
      · rw [List.map_append, second.names, third.indexNames, List.filterMap_append,
          List.filterMap_append, noIndexes, List.nil_append]

end Parts

/-- The report of a run, whose calls were all granted, puts every declared collection and
every declared index into one of its lists. -/
structure BootstrapReport.Accounts (report : BootstrapReport) (definition : SchemaDefinition)
    (calls : List Call) : Prop where
  collections : (Ensured.createdNames report.collections ++
    Ensured.existingNames report.collections).Perm
      (definition.collections.map CollectionSpec.name)
  created : ∀ name, name ∈ Ensured.createdNames report.collections ↔ Call.created name ∈ calls
  existing : ∀ declared ∈ definition.collections,
    (declared.name ∈ Ensured.existingNames report.collections ↔
      declared.name ∉ Ensured.createdNames report.collections)
  indexes : (Ensured.createdNames report.indexes ++
    Ensured.existingNames report.indexes).Perm (calls.filterMap Call.ensuredIndex?)
  indexCount : (calls.filterMap Call.ensuredIndex?).length =
    (definition.collections.flatMap CollectionSpec.indexes).length

namespace CollectionEntries

variable {definition : SchemaDefinition} {entries : List Ensured × List Ensured}
  {calls : List Call}

/-- A collection is reported as created if and only if a call has created it. -/
theorem mem_created_iff (account : CollectionEntries definition.collections entries calls)
    (name : String) : name ∈ Ensured.createdNames entries.1 ↔ Call.created name ∈ calls := by
  rw [account.created, List.mem_filterMap]
  constructor
  · rintro ⟨call, made, found⟩
    rw [Call.createdCollection?_eq_some_iff] at found
    exact found ▸ made
  · intro made
    exact ⟨_, made, (Call.createdCollection?_eq_some_iff _ name).mpr rfl⟩

/-- Nothing is listed twice, since no name is declared twice. -/
theorem mem_existing_iff (account : CollectionEntries definition.collections entries calls)
    (distinct : (definition.collections.map CollectionSpec.name).Nodup)
    {declared : CollectionSpec} (member : declared ∈ definition.collections) :
    declared.name ∈ Ensured.existingNames entries.1 ↔
      declared.name ∉ Ensured.createdNames entries.1 := by
  have listed := Ensured.names_perm entries.1
  rw [account.names] at listed
  have disjoint := (List.nodup_append.mp (listed.nodup_iff.mpr distinct)).2.2
  constructor
  · exact fun existing created => disjoint _ created _ existing rfl
  · intro fresh
    have somewhere := listed.mem_iff.mpr (List.mem_map_of_mem member)
    exact (List.mem_append.mp somewhere).resolve_left fresh

/-- A report of the entries accounts for all calls of the run. -/
theorem accounts (account : CollectionEntries definition.collections entries calls)
    (valid : definition.violation? = none) (reply : Request.listCollections.Reply) :
    BootstrapReport.Accounts ⟨definition.database, entries.1, entries.2⟩ definition
      (⟨.listCollections, .ok reply⟩ :: calls) where
  collections := account.names ▸ Ensured.names_perm entries.1
  created := by
    intro name
    rw [account.mem_created_iff name, List.mem_cons]
    constructor
    · exact Or.inr
    · rintro (same | made)
      · cases same
      · exact made
  existing := fun _ member =>
    account.mem_existing_iff (SchemaDefinition.declarable valid).names member
  indexes := by
    change (Ensured.createdNames entries.2 ++ Ensured.existingNames entries.2).Perm
      (calls.filterMap Call.ensuredIndex?)
    exact account.indexNames ▸ Ensured.names_perm entries.2
  indexCount := by
    change (calls.filterMap Call.ensuredIndex?).length = _
    rw [← account.indexNames, List.length_map, account.indexCount]

end CollectionEntries

namespace SchemaDefinition

/-- Planning collections only inspects the store. -/
theorem planCollections_asks (listed : List String) (collections : List CollectionSpec) :
    (planCollections listed collections).Asks Request.Inspects := by
  induction collections with
  | nil => exact asks_pure []
  | cons declared rest ih =>
      have goesOn := fun present : List ExistingIndex =>
        ih.bind fun later =>
          asks_pure (declared.steps (listed.contains declared.name) present ++ later)
      rw [planCollections]
      split
      · exact (asks_request trivial).bind goesOn
      · exact goesOn []

/-- Verifying collections only inspects the store. -/
theorem verifyCollections_asks (listed : List String) (collections : List CollectionSpec) :
    (verifyCollections listed collections).Asks Request.Inspects := by
  induction collections with
  | nil => exact asks_pure Shortfall.none
  | cons declared rest ih =>
      have goesOn := fun here : Shortfall => ih.bind fun later => asks_pure (here ++ later)
      rw [verifyCollections]
      split
      · exact (asks_request trivial).bind fun present =>
          goesOn (Shortfall.ofIndexes declared.name present declared.indexes)
      · exact goesOn (Shortfall.ofAbsent declared)

/-- A plan is made by inspection alone. -/
theorem plan_asks (definition : SchemaDefinition) :
    definition.plan.Asks Request.Inspects := by
  refine (asks_request trivial).bind fun listed => ?_
  exact (planCollections_asks listed definition.collections).bind fun steps => asks_pure _

/-- A verification is made by inspection alone. -/
theorem verify_asks (definition : SchemaDefinition) :
    definition.verify.Asks Request.Inspects := by
  refine (asks_request trivial).bind fun listed => ?_
  exact (verifyCollections_asks listed definition.collections).bind fun shortfall => asks_pure _

/-- After the listing, a run keeps to the requests that the listing calls for. -/
theorem report_keepsTo {definition : SchemaDefinition} (valid : definition.violation? = none)
    (listed : List String) :
    (ensureCollections listed definition.collections >>= fun entries =>
        (pure ⟨definition.database, entries.1, entries.2⟩ :
          Program StoreError BootstrapReport)).KeepsTo (definition.requests listed)
      fun report calls => report.Accounts definition (⟨.listCollections, .ok listed⟩ :: calls) := by
  rw [← List.append_nil (definition.requests listed)]
  refine (ensureCollections_keepsTo listed definition.collections).bind
    fun entries calls account => keepsTo_pure ?_
  rw [List.append_nil]
  exact account.accounts valid listed

/-- A run asks for the listing and, unless that is refused, keeps to what it calls for. -/
theorem apply_conducted {definition : SchemaDefinition} (valid : definition.violation? = none)
    (store : Store σ) (state : σ) :
    Conducted (.listCollections :: definition.requestsAfter (store.answer state .listCollections).1)
      (fun report calls => report.Accounts definition calls)
      (definition.apply.calls store state) (definition.apply.run store state).1 :=
  conducted_request_bind (report_keepsTo valid) store state

end SchemaDefinition

namespace Bootstrapper

variable (bootstrapper : Bootstrapper) (store : Store σ) (state : σ)

/-- All calls of a plan inspect the store, whatever they are answered. -/
theorem plan_inspects :
    ∀ call ∈ bootstrapper.plan.calls store state, call.1.Inspects := by
  rw [plan, calls_mapError]
  exact bootstrapper.definition.plan_asks.allowed_of_mem_calls store state

/-- All calls of a verification inspect the store, whatever they are answered. -/
theorem verify_inspects :
    ∀ call ∈ bootstrapper.verify.calls store state, call.1.Inspects := by
  rw [verify, calls_mapError]
  exact bootstrapper.definition.verify_asks.allowed_of_mem_calls store state

/-- **A run keeps to its requests.** Whatever a store answers, a run first asks which
collections there are and then makes the requests that the answer calls for, in order. It
ends with the first refusal, and if nothing is refused it makes all of them and reports on
all that is declared. A plan and a comparison only ask what there is. -/
theorem apply_keeps_to_its_requests :
    let calls := bootstrapper.apply.calls store state
    let result := (bootstrapper.apply.run store state).1
    (∃ later, calls = ⟨.listCollections, (store.answer state .listCollections).1⟩ :: later ∧
      ∀ listed, (store.answer state .listCollections).1 = .ok listed →
        later.map Sigma.fst <+: bootstrapper.definition.requests listed ∧
        ((∀ call ∈ later, Call.Granted call) →
          later.map Sigma.fst = bootstrapper.definition.requests listed)) ∧
    (∀ earlier request error later, calls = earlier ++ ⟨request, .error error⟩ :: later →
      later = [] ∧ result = .error (.store error)) ∧
    ((∀ call ∈ calls, Call.Granted call) →
      ∃ report, result = .ok report ∧ report.Accounts bootstrapper.definition calls) ∧
    (∀ call ∈ bootstrapper.plan.calls store state, call.1.Inspects) ∧
    ∀ call ∈ bootstrapper.verify.calls store state, call.1.Inspects := by
  intro calls result
  have made : calls = bootstrapper.definition.apply.calls store state := calls_mapError ..
  have ended : result = (bootstrapper.definition.apply.run store state).1.mapError .store :=
    congrArg Prod.fst (run_mapError ..)
  -- The bootstrapper wraps the error of the definition's run, and makes the same calls.
  have conducted := SchemaDefinition.apply_conducted bootstrapper.valid store state
  rw [← made] at conducted
  refine ⟨⟨_, rfl, ?_⟩, ?_, ?_, bootstrapper.plan_inspects store state,
    bootstrapper.verify_inspects store state⟩
  · intro listed answered
    obtain ⟨requests, -, granted⟩ := conducted
    rw [answered] at requests granted
    constructor
    · exact (List.cons_prefix_cons.mp requests).2
    · intro all
      have first : Call.Granted ⟨.listCollections, (store.answer state .listCollections).1⟩ :=
        ⟨listed, answered⟩
      exact (List.cons.inj (granted (List.forall_mem_cons.mpr ⟨first, all⟩)).1).2
  · intro earlier request error later split
    obtain ⟨last, refused⟩ := conducted.refused earlier request error later split
    rw [ended, refused]
    exact ⟨last, rfl⟩
  · intro all
    obtain ⟨-, report, reported, accounts⟩ := conducted.granted all
    rw [ended, reported]
    exact ⟨report, rfl, accounts⟩

/-- A store that lists no collection, although each is there when it is to be created. -/
def raced : Store Unit where
  database _ := "testbench"
  answer _
    | .ping => (.ok (), ())
    | .listCollections => (.ok [], ())
    | .createCollection _ => (.ok .alreadyExists, ())
    | .listIndexes _ => (.ok [], ())
    | .createIndex _ spec => (.ok spec.name, ())
    | .insertDocument _ _ => (.ok (), ())

/-- A run that is told each time that a collection is there already is not refused, and
reports none as created. -/
theorem apply_keeps_to_its_requests_before_raced :
    (∀ call ∈ (⟨.testbench, rfl⟩ : Bootstrapper).apply.calls raced (), Call.Granted call) ∧
    ∃ report, ((⟨.testbench, rfl⟩ : Bootstrapper).apply.run raced ()).1 = .ok report ∧
      ∀ name, name ∉ Ensured.createdNames report.collections := by
  obtain ⟨-, -, reports, -⟩ := apply_keeps_to_its_requests ⟨.testbench, rfl⟩ raced ()
  have answers : ((⟨.testbench, rfl⟩ : Bootstrapper).apply.calls raced ()).all
      (fun call => call.2.toBool && (Call.createdCollection? call).isNone) = true := by
    decide +kernel
  simp only [List.all_eq_true, Bool.and_eq_true, Option.isNone_iff_eq_none] at answers
  have granted : ∀ call ∈ (⟨.testbench, rfl⟩ : Bootstrapper).apply.calls raced (),
      Call.Granted call :=
    fun call made => exists_eq_ok_of_toBool (answers call made).1
  obtain ⟨report, reported, accounts⟩ := reports granted
  refine ⟨granted, report, reported, fun name listed => ?_⟩
  have nothing := (answers _ ((accounts.created name).mp listed)).2
  rw [(Call.createdCollection?_eq_some_iff _ name).mpr rfl] at nothing
  cases nothing

end Bootstrapper

end SchemaBootstrap

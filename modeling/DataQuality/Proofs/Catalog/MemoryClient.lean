import DataQuality.Proofs.Catalog.Memory
import DataQuality.Proofs.Workflow.Watch
import DataQuality.Sink.Metadata

/-!
# The client of a catalog in memory

What the client of an open catalog in memory answers to each question, and what each of its
actions leaves alone.
-/

namespace DataQuality

/-- A request of the right kind is passed on. -/
theorem CatalogClient.create_of_kind {σ α : Type} [Entity α] (client : CatalogClient σ)
    {request : CreateRequest} (h : request.kind = Entity.kind α) :
    client.create α request =
      (client.createOrUpdate request >>= CatalogM.decoded Entity.decoder) := by
  rw [create, if_pos h]

namespace MemoryCatalog

/-! ## Answers -/

/-- A catalog holds an entity: its document stands under its key. -/
def Holds {α : Type} [Entity α] (catalog : MemoryCatalog) (entity : α) : Prop :=
  catalog.find? (Entity.kind α) (Entity.key entity) = some (Entity.toJson entity)

/-- The reference to what stands under a name. -/
def reference (catalog : MemoryCatalog) (kind : EntityKind) (name : String) :
    Except CatalogError EntityReference :=
  match catalog.find? kind name with
  | none => .error (.notFound kind name)
  | some value => (EntityReference.ofEntity kind (Datum.ofJson value)).mapError .serialization

/-- A reference to a suite has the identifier of the suite. -/
theorem reference_of_suite {catalog : MemoryCatalog} {name : String} {suite : TestSuite}
    (h : catalog.find? .testSuite name = some suite.toJson) :
    catalog.reference .testSuite name =
      .ok ⟨suite.id, EntityKind.testSuite.name, some suite.name, suite.fullyQualifiedName,
        suite.description⟩ := by
  simp only [reference, h, TestSuite.ofEntity_toJson]
  rfl

variable {world : World MemoryCatalog}

theorem attempt_decoded_toJson {α : Type} [Entity α]
    (h : Decoder.Reads (Entity.decoder : Decoder α) Entity.toJson) (entity : α) :
    Effect.attempt
        (CatalogM.decoded Entity.decoder (Entity.toJson entity) : CatalogM MemoryCatalog α)
        world = (.ok entity, world) := by
  rw [CatalogM.attempt_decoded, h entity]
  rfl

theorem attempt_decodedAll_toJson {α : Type} [Entity α]
    (h : Decoder.Reads (Entity.decoder : Decoder α) Entity.toJson) (entities : List α) :
    Effect.attempt
        (CatalogM.decodedAll Entity.decoder (entities.map Entity.toJson) :
          CatalogM MemoryCatalog (List α)) world = (.ok entities, world) := by
  induction entities with
  | nil => rfl
  | cons entity rest ih =>
      rw [List.map_cons, CatalogM.decodedAll,
        Effect.attempt_bind_ok (attempt_decoded_toJson h entity), Effect.attempt_bind_ok ih]
      rfl

theorem attempt_getByName (hopen : world.state.closed = false) (kind : EntityKind)
    (name : String) (fields : List String) :
    Effect.attempt (client.getByName kind name fields) world =
      (.ok (world.state.find? kind name), world) := by
  have hrun : Effect.attempt (client.getByName kind name fields) world =
      (if world.state.closed then .error .closed else .ok (world.state.find? kind name),
        world) := rfl
  rw [hrun, hopen]
  rfl

theorem attempt_reference (hopen : world.state.closed = false) (kind : EntityKind)
    (name : String) :
    Effect.attempt (client.reference kind name) world =
      (world.state.reference kind name, world) := by
  rw [CatalogClient.reference, Effect.attempt_bind_ok (attempt_getByName hopen kind name []),
    reference]
  cases world.state.find? kind name with
  | none => rfl
  | some value => exact CatalogM.attempt_decoded _ value _

variable {α : Type} [Entity α]

/-- A client of an open catalog reads what stands under the name. -/
theorem attempt_find (hopen : world.state.closed = false) (name : String)
    (fields : List String) :
    Effect.attempt (client.find α name fields) world =
      ((world.state.find? (Entity.kind α) name).mapM (Entity.read α), world) := by
  rw [CatalogClient.find, Effect.attempt_bind_ok (attempt_getByName hopen _ name fields)]
  cases world.state.find? (Entity.kind α) name with
  | none => rfl
  | some value =>
      simp only [Effect.attempt_bind, CatalogM.attempt_decoded_entity, Option.mapM_some]
      cases Entity.read α value with
      | error e => rfl
      | ok entity => rfl

theorem attempt_find_none (hopen : world.state.closed = false) {name : String}
    (h : world.state.find? (Entity.kind α) name = none) (fields : List String) :
    Effect.attempt (client.find α name fields) world = (.ok none, world) := by
  rw [attempt_find hopen, h]
  rfl

theorem attempt_find_some (hopen : world.state.closed = false)
    (hreads : Decoder.Reads (Entity.decoder : Decoder α) Entity.toJson) {name : String}
    {entity : α} (h : world.state.find? (Entity.kind α) name = some (Entity.toJson entity))
    (fields : List String) :
    Effect.attempt (client.find α name fields) world = (.ok (some entity), world) := by
  rw [attempt_find hopen, h, Option.mapM_some, Entity.read_of_ofJson (hreads entity)]
  rfl

/-- Asking an open catalog to create an entity stores it, unless it is refused or no name for it
can be made. -/
theorem attempt_createOrUpdate (hopen : world.state.closed = false) (request : CreateRequest) :
    Effect.attempt (client.createOrUpdate request) world =
      if request.name ∈ world.state.refusing then
        (.error (.refused 400 s!"rejected create of {request.name}"), world)
      else
        match requestedName request with
        | .error e => (.error e, world)
        | .ok fqn =>
            (.ok (world.state.store request fqn).1,
              { world with state := (world.state.store request fqn).2 }) := by
  have hrun : Effect.attempt (client.createOrUpdate request) world =
      ((world.state.createOrUpdate request).1,
        { world with state := (world.state.createOrUpdate request).2 }) := rfl
  rw [hrun, createOrUpdate, hopen]
  simp only [Bool.false_eq_true, if_false]
  split
  next => rfl
  next =>
    cases requestedName request with
    | error e => rfl
    | ok fqn => rfl

/-! ## Test cases -/

/-- The test cases of a catalog, in order of their keys. -/
def testCases (catalog : MemoryCatalog) : List TestCase :=
  (catalog.entities .testCase).filterMap fun entry =>
    (TestCase.decoder (Datum.ofJson entry.2)).toOption

variable {catalog : MemoryCatalog}

theorem WellFormed.entities_testCase (h : catalog.WellFormed) :
    catalog.entities .testCase =
      catalog.testCases.map fun testCase => (testCase.key, testCase.toJson) := by
  have hentry : ∀ entry ∈ catalog.entities .testCase,
      ∃ testCase : TestCase, entry = (testCase.key, testCase.toJson) := by
    rintro ⟨key, value⟩ hmem
    have hdocument :=
      h.document .testCase key value ((Keyed.mem_iff_find? (h.sorted .testCase)).mp hmem)
    cases hdocument with
    | testCase testCase => exact ⟨testCase, rfl⟩
  rw [testCases]
  -- from here on any entries that are documents of test cases will do
  generalize catalog.entities .testCase = entries at hentry
  induction entries with
  | nil => rfl
  | cons entry rest ih =>
      obtain ⟨testCase, rfl⟩ := hentry entry List.mem_cons_self
      have hrest := ih fun entry hmem => hentry entry (List.mem_cons_of_mem _ hmem)
      have hread : (TestCase.decoder (Datum.ofJson testCase.toJson)).toOption =
          some testCase := by
        rw [TestCase.reads testCase]
        rfl
      simp only [List.filterMap_cons, hread, List.map_cons]
      exact congrArg (List.cons _) hrest

theorem WellFormed.mem_testCases (h : catalog.WellFormed) {testCase : TestCase} :
    testCase ∈ catalog.testCases ↔ catalog.Holds testCase := by
  have hiff : catalog.Holds testCase ↔
      (testCase.key, testCase.toJson) ∈ catalog.entities .testCase :=
    (Keyed.mem_iff_find? (h.sorted .testCase)).symm
  rw [hiff, h.entities_testCase, List.mem_map]
  constructor
  · exact fun hmem => ⟨testCase, hmem, rfl⟩
  · rintro ⟨other, hmem, heq⟩
    rwa [← TestCase.reads.injective (Prod.mk.inj heq).2]

theorem WellFormed.nodup_keys (h : catalog.WellFormed) :
    (catalog.testCases.map (·.key)).Nodup := by
  have hnodup := (h.sorted .testCase).nodup
  rw [h.entities_testCase, List.map_map] at hnodup
  exact hnodup

/-- A test case meets the condition of its own suite only. -/
theorem meets_toJson (testCase : TestCase) (suite : TestSuite) :
    meets testCase.toJson (Workflow.ofSuite suite) = (testCase.testSuite.id == suite.id) := by
  have hfiltered : filtered? testCase.toJson "testSuiteId" =
      some (.string testCase.testSuite.id.render) := by
    have hsuite : testCase.toJson.get? "testSuite" = some testCase.testSuite.toJson := by
      unfold TestCase.toJson
      cases testCase.fullyQualifiedName with
      | none => cases testCase.description <;> rfl
      | some fqn => cases testCase.description <;> rfl
    rw [filtered?, if_pos rfl, hsuite]
    rfl
  have hmeets : meets testCase.toJson (Workflow.ofSuite suite) =
      (some testCase.testSuite.id.render == some suite.id.render) := by
    simp only [meets, Workflow.ofSuite, List.all_cons, List.all_nil, Bool.and_true, hfiltered]
    rfl
  -- the filter compares texts of identifiers, which differ for different identifiers
  rw [hmeets, Bool.eq_iff_iff, beq_iff_eq, beq_iff_eq, Option.some.injEq]
  exact ⟨Uuid.render_injective, congrArg Uuid.render⟩

/-- Listing the test cases of a suite. -/
theorem attempt_findAll (hopen : world.state.closed = false) (h : world.state.WellFormed)
    (fields : List String) (suite : TestSuite) :
    Effect.attempt (client.findAll TestCase fields (Workflow.ofSuite suite)) world =
      (.ok (world.state.testCases.filter fun testCase => testCase.testSuite.id == suite.id),
        world) := by
  have hlist : Effect.attempt (client.listEntities .testCase fields (Workflow.ofSuite suite))
      world =
        (.ok ((world.state.testCases.filter fun testCase =>
          testCase.testSuite.id == suite.id).map TestCase.toJson), world) := by
    have hrun : Effect.attempt (client.listEntities .testCase fields (Workflow.ofSuite suite))
        world =
          (if world.state.closed then .error .closed
            else .ok (((world.state.entities .testCase).map (·.2)).filter fun value =>
              meets value (Workflow.ofSuite suite)), world) := rfl
    rw [hrun, hopen, h.entities_testCase, List.map_map, List.filter_map]
    have hmeets : (fun value => meets value (Workflow.ofSuite suite)) ∘
        ((fun entry : String × Json => entry.2) ∘
          fun testCase : TestCase => (testCase.key, testCase.toJson)) =
        fun testCase => testCase.testSuite.id == suite.id :=
      funext fun testCase => meets_toJson testCase suite
    rw [hmeets]
    rfl
  rw [CatalogClient.findAll]
  exact (Effect.attempt_bind_ok hlist _).trans (attempt_decodedAll_toJson TestCase.reads _)

/-! ## What is left alone -/

/-- Nothing changes but the attached results. -/
def butResults : Frame MemoryCatalog where
  rel catalog catalog' := ∃ results, catalog' = { catalog with results }
  refl catalog := ⟨catalog.results, rfl⟩
  trans := by
    rintro _ _ _ ⟨results, rfl⟩ ⟨results', rfl⟩
    exact ⟨results', rfl⟩

theorem tries_addResult (name : String) (result : TestCaseResult) :
    butResults.Tries (client.addResult name result) := by
  intro world
  change butResults.rel world.state (world.state.addResult name result).2
  unfold addResult
  split
  next => exact butResults.refl _
  next =>
    split
    next => exact butResults.refl _
    next => exact ⟨_, rfl⟩

section Reading

variable (frame : Frame MemoryCatalog)

theorem tries_getByName (kind : EntityKind) (name : String) (fields : List String) :
    frame.Tries (client.getByName kind name fields) :=
  fun world => frame.refl world.state

theorem tries_retrieveConnection (service : DatabaseService) (kind : ServiceKind) :
    frame.Tries (client.retrieveConnection service kind) :=
  fun world => frame.refl world.state

theorem tries_decoded {β : Type} (decode : Decoder β) (value : Json) :
    frame.Tries (CatalogM.decoded decode value : CatalogM MemoryCatalog β) := by
  unfold CatalogM.decoded
  split
  next => exact frame.tries_pure _
  next => exact frame.tries_throw _

theorem tries_find (β : Type) [Entity β] (name : String) (fields : List String) :
    frame.Tries (client.find β name fields) := by
  refine (tries_getByName frame _ name fields).bind fun found => ?_
  cases found with
  | none => exact frame.tries_pure none
  | some value => exact (tries_decoded frame _ value).bind fun a => frame.tries_pure (some a)

theorem tries_serviceConnection (table : String) :
    frame.Tries (TableContext.serviceConnection client table) := by
  unfold TableContext.serviceConnection
  split
  next => exact frame.tries_throw _
  next name _ =>
    refine ((tries_find frame DatabaseService name _).adapt _).bind fun found => ?_
    cases found with
    | none => exact frame.tries_throw _
    | some service => exact (tries_retrieveConnection frame service _).adapt _

/-- Building a context changes nothing in the catalog. -/
theorem tries_build (connections : Bool) (table : String) :
    frame.Tries (TableContext.build client connections table) := by
  have hconnection : frame.Tries (TableContext.connection? client connections table) := by
    unfold TableContext.connection?
    split
    next => exact (tries_serviceConnection frame table).bind fun _ => frame.tries_pure _
    next => exact frame.tries_pure none
  refine hconnection.bind fun connection => ?_
  refine ((tries_find frame Table table _).adapt _).bind fun found => ?_
  cases found with
  | none => exact frame.tries_throw _
  | some table =>
      dsimp only
      split
      next => exact frame.tries_throw _
      next => exact frame.tries_pure _

end Reading

end MemoryCatalog

/-! ## Runs on a catalog in memory -/

namespace Workflow

open MemoryCatalog

variable {σ τ : Type}

/-- A run asks a catalog in memory that is a part of the world, and what evaluates test cases
leaves that catalog alone but for the results. -/
structure RunsOn (part : Part σ MemoryCatalog) (workflow : Workflow σ) : Prop where
  client_eq : workflow.client = MemoryCatalog.client.lift part
  executor : ∀ context testCase,
    (butResults.within part).Tries (workflow.executor.run context testCase)
  sink : ∀ sink, workflow.sink = some sink → ∀ record,
    (butResults.within part).Tries (sink.write record)

theorem RunsOn.evaluatesWithin {part : Part σ MemoryCatalog} {workflow : Workflow σ}
    (h : workflow.RunsOn part) : workflow.EvaluatesWithin (butResults.within part) where
  context connections table := by
    rw [h.client_eq, TableContext.build_lift]
    exact (tries_build butResults connections table).liftExcept part
  executor := h.executor
  sink := h.sink

/-- The run of a configuration on nothing but a catalog. It evaluates nothing. -/
def alone (config : WorkflowConfig) : Workflow MemoryCatalog where
  config := config
  client := MemoryCatalog.client
  executor := ⟨"none", fun _ _ => pure none⟩
  sink := none

theorem runsOn_alone (config : WorkflowConfig) : (alone config).RunsOn Part.whole where
  client_eq := rfl
  executor _ _ world := butResults.refl world.state
  sink _ h := by cases h

variable {part : Part σ MemoryCatalog} {workflow : Workflow σ}

theorem RunsOn.readsThrough (h : workflow.RunsOn part) :
    ReadsThrough part workflow (alone workflow.config) := ⟨rfl, h.client_eq⟩

/-- What an execution leaves of the catalog: what finding the working set leaves, and results. -/
theorem RunsOn.execute_catalog (h : workflow.RunsOn part) (status : Status) (world : World σ) :
    butResults.rel
      (Effect.attempt (alone workflow.config).workingSet (part.world world)).2.state
      (part.get ((workflow.execute.run.run status).run world).2.state) := by
  rw [run_execute, h.readsThrough.workingSet, part.attempt_liftExcept]
  cases Effect.attempt (alone workflow.config).workingSet (part.world world) with
  | mk answer loaded =>
      have hget : part.get (part.within world loaded).state = loaded.state :=
        congrArg World.state (part.world_within world loaded)
      cases answer with
      | error e =>
          dsimp only
          rw [hget]
          exact butResults.refl _
      | ok working =>
          have hrun := h.evaluatesWithin.runAll working status (part.within world loaded)
          exact hget ▸ hrun

/-- An executor and a sink with a state of their own leave the catalog alone. -/
theorem runsOn_beside (config : WorkflowConfig) (executor : TestExecutor τ)
    (sink : Option (Sink τ)) :
    RunsOn Part.first
      { config
        client := MemoryCatalog.client.lift Part.first
        executor := executor.lift Part.second
        sink := sink.map (Sink.lift Part.second) } where
  client_eq := rfl
  executor context testCase := Frame.keeps_lift_second (executor.run context testCase).run
  sink := by
    rintro _ hsink record
    obtain ⟨inner, -, rfl⟩ := Option.map_eq_some_iff.mp hsink
    exact Frame.keeps_lift_second (inner.write record).run

/-- The sink of the catalog attaches results and does nothing else to it. -/
theorem runsOn_metadata (config : WorkflowConfig) (executor : TestExecutor τ)
    (books : Part τ Status) :
    RunsOn Part.first
      { config
        client := MemoryCatalog.client.lift Part.first
        executor := executor.lift Part.second
        sink := some
          (Sink.metadata (MemoryCatalog.client.lift Part.first) (Part.second.comp books)) } where
  client_eq := rfl
  executor context testCase := Frame.keeps_lift_second (executor.run context testCase).run
  sink := by
    rintro _ hsink record
    cases hsink
    have hbooks : ∀ change : Status → Status,
        (butResults.within Part.first).Keeps
          ((Part.second.comp books : Part (MemoryCatalog × τ) Status).change change) :=
      fun _ world => butResults.refl world.state.1
    have hresult := (tries_addResult record.testCase record.result).liftExcept
      (Part.first : Part (MemoryCatalog × τ) MemoryCatalog)
    refine (Frame.Keeps.tries hresult.keeps).bind fun answer => ?_
    cases answer with
    | ok _ => exact (hbooks _).tries
    | error e =>
        refine (Frame.tries_note _ _ _).bind fun _ => ?_
        exact (hbooks _).tries.bind fun _ => Frame.tries_throw _ _

end Workflow

end DataQuality

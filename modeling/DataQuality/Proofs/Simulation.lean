import DataQuality.Proofs.Effect

/-!
# Simulations

A simulation relates actions on one kind of world to actions on another, and holds of actions that
are put together alike from related ones. Two runs put their calls together alike. So their
executions are related if their clients, executors and sinks answer in related actions.
-/

namespace DataQuality

/-- A relation of actions on two kinds of worlds that respects how actions are built. -/
structure Simulation (τ σ : Type) where
  rel : {α : Type} → Effect τ α → Effect σ α → Prop
  pure : ∀ {α : Type} (a : α), rel (Pure.pure a) (Pure.pure a)
  log : ∀ level text, rel (Effect.log level text) (Effect.log level text)
  bind : ∀ {α β : Type} {action : Effect τ α} {action' : Effect σ α} {next : α → Effect τ β}
    {next' : α → Effect σ β}, rel action action' → (∀ a, rel (next a) (next' a)) →
      rel (action >>= next) (action' >>= next')

namespace Simulation

variable {τ σ α β ε : Type} (sim : Simulation τ σ)

theorem map {action : Effect τ α} {action' : Effect σ α} (f : α → β)
    (h : sim.rel action action') : sim.rel (f <$> action) (f <$> action') := by
  rw [map_eq_pure_bind, map_eq_pure_bind]
  exact sim.bind h fun a => sim.pure (f a)

/-! ## Actions that may fail -/

/-- Actions that may fail are related if they are, failures being answers. -/
def Tries (action : ExceptT ε (Effect τ) α) (action' : ExceptT ε (Effect σ) α) : Prop :=
  sim.rel action.run action'.run

theorem tries_pure (a : α) :
    sim.Tries (Pure.pure a : ExceptT ε (Effect τ) α) (Pure.pure a) :=
  sim.pure (Except.ok a : Except ε α)

theorem tries_throw (e : ε) :
    sim.Tries (throw e : ExceptT ε (Effect τ) α) (throw e) :=
  sim.pure (Except.error e : Except ε α)

theorem tries_lift {action : Effect τ α} {action' : Effect σ α} (h : sim.rel action action') :
    sim.Tries (ExceptT.lift action : ExceptT ε (Effect τ) α) (ExceptT.lift action') :=
  sim.map Except.ok h

theorem tries_note (level : LogLevel) (text : String) :
    sim.Tries (Effect.note level text : ExceptT ε (Effect τ) Unit) (Effect.note level text) :=
  sim.tries_lift (sim.log level text)

variable {sim}

theorem Tries.bind {action : ExceptT ε (Effect τ) α} {action' : ExceptT ε (Effect σ) α}
    {next : α → ExceptT ε (Effect τ) β} {next' : α → ExceptT ε (Effect σ) β}
    (h : sim.Tries action action') (hnext : ∀ a, sim.Tries (next a) (next' a)) :
    sim.Tries (action >>= next) (action' >>= next') := by
  rw [Tries, ExceptT.run_bind, ExceptT.run_bind]
  refine sim.bind h fun answer => ?_
  cases answer with
  | ok a => exact hnext a
  | error e => exact sim.tries_throw e

theorem Tries.adapt {ε' : Type} {action : ExceptT ε (Effect τ) α}
    {action' : ExceptT ε (Effect σ) α} (h : sim.Tries action action') (f : ε → ε') :
    sim.Tries (ExceptT.adapt f action) (ExceptT.adapt f action') :=
  sim.map (Except.mapError f) h

variable (sim)

theorem tries_decoded (decode : Decoder α) (value : Json) :
    sim.Tries (CatalogM.decoded decode value) (CatalogM.decoded decode value) := by
  unfold CatalogM.decoded
  split
  next => exact sim.tries_pure _
  next => exact sim.tries_throw _

theorem tries_decodedAll (decode : Decoder α) (values : List Json) :
    sim.Tries (CatalogM.decodedAll decode values) (CatalogM.decodedAll decode values) := by
  induction values with
  | nil => exact sim.tries_pure []
  | cons value rest ih =>
      exact (sim.tries_decoded decode value).bind fun a =>
        ih.bind fun as => sim.tries_pure (a :: as)

/-! ## Clients and sinks -/

/-- Two clients answer in related actions. Closing them is left open. -/
structure Asks (client : CatalogClient τ) (client' : CatalogClient σ) : Prop where
  getByName : ∀ kind name fields,
    sim.Tries (client.getByName kind name fields) (client'.getByName kind name fields)
  listEntities : ∀ kind fields filter,
    sim.Tries (client.listEntities kind fields filter) (client'.listEntities kind fields filter)
  createOrUpdate : ∀ request,
    sim.Tries (client.createOrUpdate request) (client'.createOrUpdate request)
  retrieveConnection : ∀ service kind,
    sim.Tries (client.retrieveConnection service kind) (client'.retrieveConnection service kind)
  addResult : ∀ name result,
    sim.Tries (client.addResult name result) (client'.addResult name result)

/-- Two sinks of one name take records in related actions. -/
structure Writes (sink : Sink τ) (sink' : Sink σ) : Prop where
  name_eq : sink.name = sink'.name
  write : ∀ record, sim.Tries (sink.write record) (sink'.write record)

namespace Asks

variable {sim} {client : CatalogClient τ} {client' : CatalogClient σ}

theorem reference (h : sim.Asks client client') (kind : EntityKind) (name : String) :
    sim.Tries (client.reference kind name) (client'.reference kind name) := by
  refine (h.getByName kind name []).bind fun found => ?_
  cases found with
  | none => exact sim.tries_throw _
  | some value => exact sim.tries_decoded _ value

theorem find (h : sim.Asks client client') (α : Type) [Entity α] (name : String)
    (fields : List String) :
    sim.Tries (client.find α name fields) (client'.find α name fields) := by
  refine (h.getByName _ name fields).bind fun found => ?_
  cases found with
  | none => exact sim.tries_pure none
  | some value => exact (sim.tries_decoded _ value).bind fun a => sim.tries_pure (some a)

theorem findAll (h : sim.Asks client client') (α : Type) [Entity α] (fields : List String)
    (filter : Filter) :
    sim.Tries (client.findAll α fields filter) (client'.findAll α fields filter) :=
  (h.listEntities _ fields filter).bind (sim.tries_decodedAll _)

theorem create (h : sim.Asks client client') (α : Type) [Entity α] (request : CreateRequest) :
    sim.Tries (client.create α request) (client'.create α request) := by
  unfold CatalogClient.create
  split
  next => exact (h.createOrUpdate request).bind (sim.tries_decoded _)
  next => exact sim.tries_throw _

/-! ## Reconciliation -/

theorem createDeclared (h : sim.Asks client client') (declared : Declared) :
    sim.Tries (declared.create client) (declared.create client') :=
  (h.reference _ _).bind fun _ => (h.reference _ _).bind fun _ => h.create TestCase _

theorem createAll (h : sim.Asks client client') (pending : List Declared) :
    sim.rel (Declared.createAll client pending) (Declared.createAll client' pending) := by
  induction pending with
  | nil => exact sim.pure []
  | cons declared rest ih =>
      refine sim.bind (h.createDeclared declared) fun answer => ?_
      cases answer with
      | ok testCase => exact sim.bind ih fun others => sim.pure (testCase :: others)
      | error e => exact sim.bind (sim.log _ _) fun _ => ih

theorem reconcile (h : sim.Asks client client') (suites : List SuiteDeclaration)
    (stored : List TestCase) :
    sim.rel (Declared.reconcile client suites stored)
      (Declared.reconcile client' suites stored) := by
  unfold Declared.reconcile
  split
  next => exact sim.pure stored
  next =>
    exact sim.bind (sim.log _ _) fun _ => sim.bind (h.createAll _) fun created =>
      sim.pure (stored ++ created)

/-! ## Contexts -/

theorem serviceConnection (h : sim.Asks client client') (table : String) :
    sim.Tries (TableContext.serviceConnection client table)
      (TableContext.serviceConnection client' table) := by
  unfold TableContext.serviceConnection
  split
  next => exact sim.tries_throw _
  next name _ =>
    refine ((h.find DatabaseService name _).adapt _).bind fun found => ?_
    cases found with
    | none => exact sim.tries_throw _
    | some service => exact (h.retrieveConnection service _).adapt _

theorem connection? (h : sim.Asks client client') (connections : Bool) (table : String) :
    sim.Tries (TableContext.connection? client connections table)
      (TableContext.connection? client' connections table) := by
  unfold TableContext.connection?
  split
  next => exact (h.serviceConnection table).bind fun connection => sim.tries_pure (some connection)
  next => exact sim.tries_pure none

theorem build (h : sim.Asks client client') (connections : Bool) (name : String) :
    sim.Tries (TableContext.build client connections name)
      (TableContext.build client' connections name) := by
  refine (h.connection? connections name).bind fun connection => ?_
  refine ((h.find Table name _).adapt _).bind fun found => ?_
  cases found with
  | none => exact sim.tries_throw _
  | some table =>
      dsimp only
      split
      next => exact sim.tries_throw _
      next => exact sim.tries_pure _

end Asks

end Simulation

/-! ## Runs -/

namespace Workflow

variable {τ σ : Type} (sim : Simulation τ σ)

/-- Two runs of one configuration whose clients answer in related actions. -/
structure Consults (workflow : Workflow τ) (workflow' : Workflow σ) : Prop where
  config_eq : workflow.config = workflow'.config
  client : sim.Asks workflow.client workflow'.client

/-- Two runs evaluate test cases in related actions: they build contexts, ask their executors and
write to their sinks in such. -/
structure Evaluates (workflow : Workflow τ) (workflow' : Workflow σ) : Prop where
  isSampleSource_eq : workflow.config.isSampleSource = workflow'.config.isSampleSource
  context : ∀ connections table,
    sim.Tries (TableContext.build workflow.client connections table)
      (TableContext.build workflow'.client connections table)
  executor : ∀ context testCase,
    sim.Tries (workflow.executor.run context testCase) (workflow'.executor.run context testCase)
  sink : Option.Rel sim.Writes workflow.sink workflow'.sink

/-- Actions of a run are related, whatever the status. -/
def Agrees {α : Type} (action : StatusM τ α) (action' : StatusM σ α) : Prop :=
  ∀ status, sim.rel (action.run status) (action'.run status)

variable {α β : Type}

theorem agrees_pure (a : α) : Agrees sim (pure a) (pure a) := fun status => sim.pure (a, status)

theorem agrees_failure (key : String) : Agrees sim (failure key) (failure key) :=
  fun status => sim.pure ((), status.failure key)

theorem agrees_processed (key : String) : Agrees sim (processed key) (processed key) :=
  fun status => sim.pure ((), status.processed key)

variable {sim}

theorem agrees_lift {effect : Effect τ α} {effect' : Effect σ α} (h : sim.rel effect effect') :
    Agrees sim (StateT.lift effect) (StateT.lift effect') :=
  fun status => sim.bind h fun a => sim.pure (a, status)

theorem Agrees.bind {action : StatusM τ α} {action' : StatusM σ α} {next : α → StatusM τ β}
    {next' : α → StatusM σ β} (h : Agrees sim action action')
    (hnext : ∀ a, Agrees sim (next a) (next' a)) :
    Agrees sim (action >>= next) (action' >>= next') :=
  fun status => sim.bind (h status) fun answer => hnext answer.1 answer.2

theorem Agrees.map {action : StatusM τ α} {action' : StatusM σ α} (f : α → β)
    (h : Agrees sim action action') : Agrees sim (f <$> action) (f <$> action') := by
  rw [map_eq_pure_bind, map_eq_pure_bind]
  exact h.bind fun a => agrees_pure sim (f a)

variable (sim)

theorem agrees_failAll (testCases : List TestCase) :
    Agrees sim (failAll testCases) (failAll testCases) := by
  induction testCases with
  | nil => exact agrees_pure sim ()
  | cons testCase rest ih => exact (agrees_failure sim _).bind fun _ => ih

theorem agrees_failUnlinked (testCases : List TestCase) :
    Agrees sim (failUnlinked testCases) (failUnlinked testCases) := by
  induction testCases with
  | nil => exact agrees_pure sim ()
  | cons testCase rest ih =>
      exact (agrees_lift (sim.log _ _)).bind fun _ => (agrees_failure sim _).bind fun _ => ih

variable {sim}

/-! ### Loading -/

namespace Consults

variable {workflow : Workflow τ} {workflow' : Workflow σ}

theorem namedSuite (h : Consults sim workflow workflow') :
    sim.Tries workflow.namedSuite workflow'.namedSuite := by
  unfold Workflow.namedSuite
  rw [h.config_eq]
  refine (h.client.find TestSuite _ _).bind fun found => ?_
  cases found with
  | none => exact sim.tries_pure none
  | some suite => exact (sim.tries_note _ _).bind fun _ => sim.tries_pure (some suite)

theorem declaredSuite (h : Consults sim workflow workflow') (declared : SuiteDeclaration) :
    sim.Tries (workflow.declaredSuite declared) (workflow'.declaredSuite declared) := by
  refine (h.client.find TestSuite _ _).bind fun found => ?_
  cases found with
  | none => exact (sim.tries_note _ _).bind fun _ => h.client.create TestSuite _
  | some suite => exact sim.tries_pure suite

theorem suitesOf (h : Consults sim workflow workflow') (declared : List SuiteDeclaration) :
    sim.Tries (workflow.suitesOf declared) (workflow'.suitesOf declared) := by
  induction declared with
  | nil => exact sim.tries_pure []
  | cons first rest ih =>
      exact (h.declaredSuite first).bind fun suite => ih.bind fun others =>
        sim.tries_pure (suite :: others)

theorem suites (h : Consults sim workflow workflow') :
    sim.Tries workflow.suites workflow'.suites := by
  refine h.namedSuite.bind fun found => ?_
  cases found with
  | none =>
      unfold declaredSuites
      rw [h.config_eq]
      exact h.suitesOf _
  | some suite => exact sim.tries_pure [suite]

theorem storedCases (h : Consults sim workflow workflow') (suites : List TestSuite) :
    sim.Tries (workflow.storedCases suites) (workflow'.storedCases suites) := by
  induction suites with
  | nil => exact sim.tries_pure []
  | cons suite rest ih =>
      exact (h.client.findAll TestCase _ _).bind fun stored => ih.bind fun others =>
        sim.tries_pure (stored ++ others)

theorem testCases (h : Consults sim workflow workflow') (suites : List TestSuite) :
    sim.Tries (workflow.testCases suites) (workflow'.testCases suites) := by
  refine (h.storedCases suites).bind fun stored => ?_
  rw [h.config_eq]
  split
  next => exact sim.tries_pure stored
  next => exact sim.tries_lift (h.client.reconcile _ stored)

theorem workingSet (h : Consults sim workflow workflow') :
    sim.Tries workflow.workingSet workflow'.workingSet := by
  refine h.suites.bind fun suites => ?_
  rw [h.config_eq]
  split
  next => exact (sim.tries_note _ _).bind fun _ => h.testCases suites
  next => exact h.testCases suites

end Consults

/-! ### Evaluation -/

namespace Evaluates

variable {workflow : Workflow τ} {workflow' : Workflow σ}

theorem forward (h : Evaluates sim workflow workflow') (record : ResultRecord) :
    sim.rel (workflow.forward record) (workflow'.forward record) := by
  unfold Workflow.forward
  have hsinks := h.sink
  generalize workflow.sink = sink at hsinks
  generalize workflow'.sink = sink' at hsinks
  cases hsinks with
  | none => exact sim.pure ()
  | some hsink =>
      refine sim.bind (hsink.write record) fun answer => ?_
      rw [hsink.name_eq]
      cases answer with
      | ok _ => exact sim.pure ()
      | error e => exact sim.log _ _

theorem runTestCase (h : Evaluates sim workflow workflow') (context : TableContext)
    (testCase : TestCase) :
    Agrees sim (workflow.runTestCase context testCase)
      (workflow'.runTestCase context testCase) := by
  refine (agrees_lift (h.executor context testCase)).bind fun answer => ?_
  cases answer with
  | error e => exact (agrees_lift (sim.log _ _)).bind fun _ => agrees_failure sim _
  | ok result =>
      cases result with
      | none => exact agrees_processed sim _
      | some result => exact (agrees_lift (h.forward _)).bind fun _ => agrees_processed sim _

theorem runTestCases (h : Evaluates sim workflow workflow') (context : TableContext)
    (testCases : List TestCase) :
    Agrees sim (workflow.runTestCases context testCases)
      (workflow'.runTestCases context testCases) := by
  induction testCases with
  | nil => exact agrees_pure sim ()
  | cons testCase rest ih => exact (h.runTestCase context testCase).bind fun _ => ih

theorem runTable (h : Evaluates sim workflow workflow') (table : String)
    (testCases : List TestCase) :
    Agrees sim (workflow.runTable table testCases) (workflow'.runTable table testCases) := by
  unfold Workflow.runTable
  rw [h.isSampleSource_eq]
  refine (agrees_lift (h.context _ table)).bind fun answer => ?_
  cases answer with
  | ok context => exact h.runTestCases context testCases
  | error e => exact (agrees_lift (sim.log _ _)).bind fun _ => agrees_failAll sim testCases

theorem runTables (h : Evaluates sim workflow workflow')
    (groups : List (String × List TestCase)) :
    Agrees sim (workflow.runTables groups) (workflow'.runTables groups) := by
  induction groups with
  | nil => exact agrees_pure sim ()
  | cons group rest ih => exact (h.runTable group.1 group.2).bind fun _ => ih

theorem runAll (h : Evaluates sim workflow workflow') (testCases : List TestCase) :
    Agrees sim (workflow.runAll testCases) (workflow'.runAll testCases) :=
  (agrees_lift (sim.log _ _)).bind fun _ => (agrees_failUnlinked sim _).bind fun _ => h.runTables _

end Evaluates

/-- Executions are related if the components are. -/
theorem Consults.execute {workflow : Workflow τ} {workflow' : Workflow σ}
    (h : Consults sim workflow workflow') (hevaluates : Evaluates sim workflow workflow') :
    Agrees sim workflow.execute.run workflow'.execute.run := by
  have hload : Agrees sim (WorkflowM.ofCatalog workflow.workingSet).run
      (WorkflowM.ofCatalog workflow'.workingSet).run := agrees_lift (h.workingSet.adapt _)
  rw [Workflow.execute, Workflow.execute, ExceptT.run_bind, ExceptT.run_bind]
  refine hload.bind fun answer => ?_
  cases answer with
  | ok testCases => exact (hevaluates.runAll testCases).map Except.ok
  | error e => exact agrees_pure sim (Except.error e)

end Workflow

end DataQuality

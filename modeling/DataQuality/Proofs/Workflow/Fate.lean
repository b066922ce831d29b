import DataQuality.Proofs.Workflow.Watch

/-!
# What becomes of test cases

Every test case of a run has a fate: its link names no table, its table has no context, or the
executor answers on it. `fates` observes the fates along a run, each in the world in which the run
comes to the test case. The status is kept by the fates alone, and the executor is called exactly
for those that record an answer of it.
-/

namespace DataQuality

/-- How far a run gets with a test case. -/
inductive Outcome where
  /-- The link names no table. -/
  | unlinked
  /-- The table has no context. -/
  | withoutContext (cause : ContextError)
  /-- The executor answers in the context of the table. -/
  | evaluated (context : TableContext)
      (answer : Except ExecutionError (Option TestCaseResult))

/-- A test case and its outcome. -/
structure Fate where
  testCase : TestCase
  outcome : Outcome

namespace Outcome

/-- Whether the outcome is a failure: everything but an answer that is no error. -/
def fails : Outcome → Bool
  | .unlinked => true
  | .withoutContext _ => true
  | .evaluated _ (.error _) => true
  | .evaluated _ (.ok _) => false

/-- What building a context gave, if one was asked for. -/
def context? : Outcome → Option (Except ContextError TableContext)
  | .unlinked => none
  | .withoutContext cause => some (.error cause)
  | .evaluated context _ => some (.ok context)

end Outcome

namespace Fate

/-- The call that a fate stems from. -/
def call? (fate : Fate) : Option ExecutorCall :=
  match fate.outcome with
  | .unlinked => none
  | .withoutContext _ => none
  | .evaluated context answer => some ⟨context, fate.testCase, answer⟩

/-- The keys of the test cases that do not fail. -/
def processedKeys (fates : List Fate) : List String :=
  (fates.filter fun fate => !fate.outcome.fails).map (·.testCase.key)

/-- The keys of the test cases that fail. -/
def failedKeys (fates : List Fate) : List String :=
  (fates.filter fun fate => fate.outcome.fails).map (·.testCase.key)

theorem processedKeys_append (fates others : List Fate) :
    processedKeys (fates ++ others) = processedKeys fates ++ processedKeys others := by
  simp only [processedKeys, List.filter_append, List.map_append]

theorem failedKeys_append (fates others : List Fate) :
    failedKeys (fates ++ others) = failedKeys fates ++ failedKeys others := by
  simp only [failedKeys, List.filter_append, List.map_append]

/-- Every fate gives one key, processed or failed. -/
theorem keys_perm (fates : List Fate) :
    (processedKeys fates ++ failedKeys fates).Perm (fates.map (·.testCase.key)) := by
  rw [processedKeys, failedKeys, ← List.map_append]
  refine List.Perm.map _ ?_
  have hsplit := List.filter_append_perm (fun fate : Fate => !fate.outcome.fails) fates
  simpa only [Bool.not_not] using hsplit

end Fate

/-- The status with the keys of further fates. -/
def Status.enter (status : Status) (fates : List Fate) : Status :=
  { status with
    records := status.records ++ Fate.processedKeys fates
    failures := status.failures ++ Fate.failedKeys fates }

theorem Status.enter_nil (status : Status) : status.enter [] = status := by
  simp [enter, Fate.processedKeys, Fate.failedKeys]

theorem Status.enter_append (status : Status) (fates others : List Fate) :
    status.enter (fates ++ others) = (status.enter fates).enter others := by
  simp only [enter, Fate.processedKeys_append, Fate.failedKeys_append, List.append_assoc]

theorem Status.enter_failed (status : Status) {fate : Fate} (h : fate.outcome.fails = true) :
    status.enter [fate] = status.failure fate.testCase.key := by
  simp [enter, failure, Fate.processedKeys, Fate.failedKeys, h]

theorem Status.enter_processed (status : Status) {fate : Fate}
    (h : fate.outcome.fails = false) :
    status.enter [fate] = status.processed fate.testCase.key := by
  simp [enter, processed, Fate.processedKeys, Fate.failedKeys, h]

variable {σ : Type}

/-- The world that an action leaves. It does not depend on the status in the actions of a run. -/
def StatusM.leaves (action : StatusM σ Unit) (world : World σ) : World σ :=
  ((action.run {}).run world).2

/-! ## Observing fates -/

namespace Workflow

variable (workflow : Workflow σ)

/-- The fates of test cases that are evaluated in one context. -/
def casesFates (context : TableContext) : List TestCase → World σ → List Fate
  | [], _ => []
  | testCase :: rest, world =>
      ⟨testCase, .evaluated context
        (Effect.attempt (workflow.executor.run context testCase) world).1⟩ ::
        casesFates context rest ((workflow.runTestCase context testCase).leaves world)

/-- The context of a table, or why it has none. -/
def tableContext (table : String) : ContextM σ TableContext :=
  TableContext.build workflow.client (!workflow.config.isSampleSource) table

/-- The fates of test cases of one table, by what building its context gave. -/
def contextFates (testCases : List TestCase) :
    Except ContextError TableContext → World σ → List Fate
  | .ok context, world => workflow.casesFates context testCases world
  | .error cause, _ => testCases.map fun testCase => ⟨testCase, .withoutContext cause⟩

/-- The fates of the test cases of a table. -/
def tableFates (table : String) (testCases : List TestCase) (world : World σ) : List Fate :=
  let built := Effect.attempt (workflow.tableContext table) world
  workflow.contextFates testCases built.1 built.2

/-- The fates of the test cases of several tables. -/
def tablesFates : List (String × List TestCase) → World σ → List Fate
  | [], _ => []
  | (table, testCases) :: rest, world =>
      workflow.tableFates table testCases world ++
        tablesFates rest ((workflow.runTable table testCases).leaves world)

/-- The fates of test cases whose link names no table. -/
def unlinkedFates (testCases : List TestCase) : List Fate :=
  testCases.map fun testCase => ⟨testCase, .unlinked⟩

/-- What a run does before it comes to the tables. -/
def prelude (groups : TableGroups) : StatusM σ Unit := do
  StateT.lift (Effect.log .info s!"Running test cases on {groups.tables.length} tables")
  failUnlinked groups.unlinked

/-- The fates of a working set. -/
def fates (testCases : List TestCase) (world : World σ) : List Fate :=
  let groups := TableGroups.ofTestCases testCases
  unlinkedFates groups.unlinked ++
    workflow.tablesFates groups.tables ((prelude groups).leaves world)

end Workflow

/-! ## Keeping to fates -/

/-- An action keeps to fates: it enters them in the status, whatever that holds, and a watched run
of it notes the calls they stem from and does nothing else besides. -/
structure KeepsTo (action : StatusM σ Unit) (watched : StatusM (σ × List ExecutorCall) Unit)
    (fates : World σ → List Fate) : Prop where
  run_eq : ∀ status world,
    (action.run status).run world = (((), status.enter (fates world)), action.leaves world)
  watched_eq : ∀ status world notes,
    (watched.run status).run (world.withNotes notes) =
      (((), status.enter (fates world)),
        (action.leaves world).withNotes (notes ++ (fates world).filterMap Fate.call?))

namespace KeepsTo

variable {action next : StatusM σ Unit}
  {watched watchedNext : StatusM (σ × List ExecutorCall) Unit}
  {fates nextFates : World σ → List Fate}

theorem pure : KeepsTo (pure () : StatusM σ Unit) (Pure.pure ()) fun _ => [] where
  run_eq status world := by rw [StatusM.run_pure, Status.enter_nil]; rfl
  watched_eq status world notes := by
    rw [StatusM.run_pure, Status.enter_nil, List.filterMap_nil, List.append_nil]
    rfl

/-- What two actions leave, one after the other. -/
theorem leaves_bind (h : KeepsTo action watched fates)
    (hnext : KeepsTo next watchedNext nextFates) (world : World σ) :
    (action >>= fun _ => next).leaves world = next.leaves (action.leaves world) := by
  rw [StatusM.leaves, StatusM.run_bind, h.run_eq, hnext.run_eq]

/-- One action after the other keeps to the fates of both, the second in the world that the first
leaves. -/
theorem bind (h : KeepsTo action watched fates) (hnext : KeepsTo next watchedNext nextFates) :
    KeepsTo (action >>= fun _ => next) (watched >>= fun _ => watchedNext)
      fun world => fates world ++ nextFates (action.leaves world) := by
  have hleaves := h.leaves_bind hnext
  constructor
  · intro status world
    rw [StatusM.run_bind, h.run_eq, hnext.run_eq, hleaves, Status.enter_append]
  · intro status world notes
    rw [StatusM.run_bind, h.watched_eq, hnext.watched_eq, hleaves, Status.enter_append,
      List.filterMap_append, List.append_assoc]

/-- What the world alone is asked first does not change what an action keeps to. -/
theorem lift_bind {α : Type} {effect : Effect σ α}
    {watchedEffect : Effect (σ × List ExecutorCall) α}
    {next : α → StatusM σ Unit} {watchedNext : α → StatusM (σ × List ExecutorCall) Unit}
    {nextFates : α → World σ → List Fate}
    (heffect : ∀ world notes, watchedEffect.run (world.withNotes notes) =
      ((effect.run world).1, (effect.run world).2.withNotes notes))
    (hnext : ∀ a, KeepsTo (next a) (watchedNext a) (nextFates a)) :
    KeepsTo (StateT.lift effect >>= next) (StateT.lift watchedEffect >>= watchedNext)
      fun world => nextFates (effect.run world).1 (effect.run world).2 where
  run_eq status world := by
    rw [StatusM.run_bind, StatusM.run_lift, (hnext _).run_eq]
    rfl
  watched_eq status world notes := by
    rw [StatusM.run_bind, StatusM.run_lift, heffect, (hnext _).watched_eq]
    rfl

theorem log_bind (level : LogLevel) (text : String)
    (hnext : KeepsTo next watchedNext nextFates) :
    KeepsTo (StateT.lift (Effect.log level text) >>= fun _ => next)
      (StateT.lift (Effect.log level text) >>= fun _ => watchedNext)
      fun world => nextFates ((Effect.log level text).run world).2 := by
  have hlog : ∀ (world : World σ) notes, (Effect.log level text).run (world.withNotes notes) =
      (((Effect.log level text).run world).1,
        ((Effect.log level text).run world).2.withNotes notes) := fun _ _ => rfl
  exact lift_bind hlog fun _ => hnext

theorem failure (fate : Fate) (h : fate.outcome.fails = true) (hcall : fate.call? = none) :
    KeepsTo (Workflow.failure fate.testCase.key : StatusM σ Unit)
      (Workflow.failure fate.testCase.key) fun _ => [fate] where
  run_eq status world := by rw [Status.enter_failed status h]; rfl
  watched_eq status world notes := by
    rw [Status.enter_failed status h, List.filterMap_cons_none hcall, List.filterMap_nil,
      List.append_nil]
    rfl

end KeepsTo

end DataQuality

import DataQuality.Check.Validator
import DataQuality.Proofs.Workflow.Accounting
import DataQuality.Proofs.Workflow.Contexts
import DataQuality.Sink.File

/-!
# Isolation of test cases

On a catalog in memory the outcome of a test case is a function of the catalog, of what the
executor answers, and of the test case: its link decides on the table, the catalog on the context,
and the executor on the rest. A run attaches results to the catalog while it goes on, but contexts
are built from entities alone. So no other test case of the run has a part in the outcome.
-/

namespace DataQuality

variable {σ τ κ : Type}

/-! ## Answers up to their date -/

/-- A result without its date. -/
def TestCaseResult.undated (result : TestCaseResult) : TestCaseResult :=
  { result with timestamp := 0 }

namespace TestExecutor

/-- What an executor answers, without the date of a result. -/
def undated (answer : Except ExecutionError (Option TestCaseResult)) :
    Except ExecutionError (Option TestCaseResult) :=
  answer.map (Option.map TestCaseResult.undated)

/-- An executor answers by context and test case alone, whatever the world: only the date of a
result may vary. -/
def Computes (executor : TestExecutor σ)
    (answer : TableContext → TestCase → Except ExecutionError (Option TestCaseResult)) : Prop :=
  ∀ context testCase world,
    undated (Effect.attempt (executor.run context testCase) world).1 =
      undated (answer context testCase)

theorem Computes.lift {executor : TestExecutor κ}
    {answer : TableContext → TestCase → Except ExecutionError (Option TestCaseResult)}
    (h : executor.Computes answer) (part : Part σ κ) : (executor.lift part).Computes answer :=
  fun context testCase world => h context testCase (part.world world)

end TestExecutor

namespace ValidatorRegistry

/-- What validators answer by their verdict, with a fixed date. -/
def answer (registry : ValidatorRegistry) (context : TableContext) (testCase : TestCase) :
    Except ExecutionError (Option TestCaseResult) :=
  (registry.judge context testCase).map fun verdict => some (verdict.toResult 0)

/-- The clock gives only the date. -/
theorem computes_answer (registry : ValidatorRegistry) (clock : Effect σ Int64) :
    (registry.executor clock).Computes registry.answer := by
  intro context testCase world
  unfold answer
  dsimp only [executor]
  cases registry.judge context testCase with
  | error e => rfl
  | ok verdict => rfl

end ValidatorRegistry

/-- The outcome without the date of a result. -/
def Outcome.undated : Outcome → Outcome
  | .unlinked => .unlinked
  | .withoutContext cause => .withoutContext cause
  | .evaluated context answer => .evaluated context (TestExecutor.undated answer)

namespace MemoryCatalog

/-! ## The outcome of a test case -/

/-- The outcome of a test case by what a catalog keeps and an executor answers. -/
def outcome (catalog : MemoryCatalog) (connections : Bool)
    (answer : TableContext → TestCase → Except ExecutionError (Option TestCaseResult))
    (testCase : TestCase) : Outcome :=
  match EntityLink.tableOf? testCase.entityLink with
  | none => .unlinked
  | some table =>
      match catalog.context connections table with
      | .error cause => .withoutContext cause
      | .ok context => .evaluated context (TestExecutor.undated (answer context testCase))

variable {catalog catalog' : MemoryCatalog}

theorem closed_of_butResults (h : butResults.rel catalog catalog') :
    catalog'.closed = catalog.closed := by
  obtain ⟨results, rfl⟩ := h
  rfl

/-- Attached results have no part in a context. -/
theorem context_of_butResults (h : butResults.rel catalog catalog') (connections : Bool)
    (name : String) : catalog'.context connections name = catalog.context connections name := by
  obtain ⟨results, rfl⟩ := h
  rfl

theorem outcome_of_butResults (h : butResults.rel catalog catalog') (connections : Bool)
    (answer : TableContext → TestCase → Except ExecutionError (Option TestCaseResult))
    (testCase : TestCase) :
    catalog'.outcome connections answer testCase = catalog.outcome connections answer testCase := by
  simp only [outcome, context_of_butResults h]

end MemoryCatalog

namespace Workflow

open MemoryCatalog

variable {part : Part σ MemoryCatalog} {workflow : Workflow σ} {catalog : MemoryCatalog}
  {answer : TableContext → TestCase → Except ExecutionError (Option TestCaseResult)}

/-! ## The fates of a run -/

theorem RunsOn.attempt_tableContext (h : workflow.RunsOn part) {world : World σ}
    (hopen : (part.get world.state).closed = false) (table : String) :
    Effect.attempt (workflow.tableContext table) world =
      ((part.get world.state).context (!workflow.config.isSampleSource) table, world) := by
  have hopen' : (part.world world).state.closed = false := hopen
  rw [tableContext, h.client_eq, TableContext.build_lift, part.attempt_liftExcept,
    attempt_build hopen', part.within_world]
  rfl

theorem casesFates_undated (hcomputes : workflow.executor.Computes answer)
    (context : TableContext) (testCases : List TestCase) (world : World σ) :
    ∀ fate ∈ workflow.casesFates context testCases world,
      fate.outcome.undated =
        .evaluated context (TestExecutor.undated (answer context fate.testCase)) := by
  induction testCases generalizing world with
  | nil => exact fun fate h => absurd h List.not_mem_nil
  | cons testCase rest ih =>
      intro fate hfate
      rcases List.mem_cons.mp hfate with rfl | hfate
      · exact congrArg (Outcome.evaluated context) (hcomputes context testCase world)
      · exact ih _ fate hfate

/-- The test cases of a table have the outcomes that the catalog decides on. -/
theorem RunsOn.tableFates_undated (h : workflow.RunsOn part)
    (hcomputes : workflow.executor.Computes answer) {world : World σ}
    (hopen : (part.get world.state).closed = false) {table : String} {testCases : List TestCase}
    (htable : ∀ testCase ∈ testCases, EntityLink.tableOf? testCase.entityLink = some table) :
    ∀ fate ∈ workflow.tableFates table testCases world,
      fate.outcome.undated = (part.get world.state).outcome (!workflow.config.isSampleSource)
        answer fate.testCase := by
  intro fate hfate
  have hmem : fate.testCase ∈ testCases :=
    workflow.contextFates_testCases testCases _ _ ▸ List.mem_map_of_mem hfate
  simp only [tableFates, h.attempt_tableContext hopen] at hfate
  simp only [outcome, htable _ hmem]
  cases hcontext : (part.get world.state).context (!workflow.config.isSampleSource) table with
  | error cause =>
      rw [hcontext] at hfate
      obtain ⟨testCase, -, rfl⟩ := List.mem_map.mp hfate
      rfl
  | ok context =>
      rw [hcontext] at hfate
      exact casesFates_undated hcomputes context testCases world fate hfate

/-- One table after the other: what a table leaves of the catalog differs by results only, which
have no part in the outcomes of the next. -/
theorem RunsOn.tablesFates_undated (h : workflow.RunsOn part)
    (hcomputes : workflow.executor.Computes answer) (hopen : catalog.closed = false)
    {groups : List (String × List TestCase)} (hgrouped : Grouped groups) {world : World σ}
    (hcatalog : butResults.rel catalog (part.get world.state)) :
    ∀ fate ∈ workflow.tablesFates groups world,
      fate.outcome.undated =
        catalog.outcome (!workflow.config.isSampleSource) answer fate.testCase := by
  induction groups generalizing world with
  | nil => exact fun fate h => absurd h List.not_mem_nil
  | cons group rest ih =>
      obtain ⟨table, testCases⟩ := group
      have htable := hgrouped (table, testCases) List.mem_cons_self
      have hrest : Grouped rest :=
        fun group hgroup => hgrouped group (List.mem_cons_of_mem _ hgroup)
      intro fate hfate
      rcases List.mem_append.mp hfate with hfate | hfate
      · have hstill := (closed_of_butResults hcatalog).trans hopen
        rw [h.tableFates_undated hcomputes hstill htable fate hfate,
          outcome_of_butResults hcatalog]
      · have hleft := h.evaluatesWithin.runTable table testCases {} world
        exact ih hrest (butResults.trans hcatalog hleft) fate hfate

/-- Every test case of a run has the outcome that the catalog decides on. -/
theorem RunsOn.fates_undated (h : workflow.RunsOn part)
    (hcomputes : workflow.executor.Computes answer) (hopen : catalog.closed = false)
    {world : World σ} (hcatalog : butResults.rel catalog (part.get world.state))
    (working : List TestCase) :
    ∀ fate ∈ workflow.fates working world,
      fate.outcome.undated =
        catalog.outcome (!workflow.config.isSampleSource) answer fate.testCase := by
  intro fate hfate
  rcases List.mem_append.mp hfate with hunlinked | htables
  · obtain ⟨testCase, htestCase, rfl⟩ := List.mem_map.mp hunlinked
    rw [TableGroups.unlinked_ofTestCases] at htestCase
    simp only [outcome, (TableGroups.mem_targeting.mp htestCase).2]
    rfl
  · have hprelude : Proceeds (butResults.within part)
        (prelude (TableGroups.ofTestCases working)) :=
      Proceeds.lift_bind (Frame.keeps_log _ _ _) fun _ => proceeds_failUnlinked _
    exact h.tablesFates_undated hcomputes hopen (grouped_tables working)
      (butResults.trans hcatalog (hprelude {} world)) fate htables

/-! ## Two runs -/

/-- A run of a working set gives a test case an outcome: the run keeps to its fates, and the test
case has fates in it, all of them with that outcome up to the date of a result. -/
structure Decides (workflow : Workflow σ) (working : List TestCase) (world : World σ)
    (testCase : TestCase) (outcome : Outcome) : Prop where
  keepsTo : KeepsTo (workflow.runAll working) (workflow.watched.runAll working)
    (workflow.fates working)
  exists_fate : ∃ fate ∈ workflow.fates working world, fate.testCase = testCase
  outcome_eq : ∀ fate ∈ workflow.fates working world,
    fate.testCase = testCase → fate.outcome.undated = outcome

theorem RunsOn.decides (h : workflow.RunsOn part) (hcomputes : workflow.executor.Computes answer)
    (hopen : catalog.closed = false) {world : World σ}
    (hcatalog : butResults.rel catalog (part.get world.state)) {working : List TestCase}
    {testCase : TestCase} (hmem : testCase ∈ working) :
    workflow.Decides working world testCase
      (catalog.outcome (!workflow.config.isSampleSource) answer testCase) where
  keepsTo := workflow.runAll_keepsTo working
  exists_fate := by
    have hperm := (workflow.accounts_fates working {} world).perm
    exact List.mem_map.mp (hperm.mem_iff.mpr hmem)
  outcome_eq := by
    rintro fate hfate rfl
    exact h.fates_undated hcomputes hopen hcatalog working fate hfate

/-- Test cases are isolated from each other: two runs on the same open catalog, up to attached
results, whose executors answer alike by context and test case, give a test case of both working
sets the same outcome, the one that the catalog and the executors decide on. The other test cases,
their order and fates, and what the sinks make of the results may be different. -/
theorem runAll_isolates {part' : Part τ MemoryCatalog} {other : Workflow τ}
    (h : workflow.RunsOn part) (hother : other.RunsOn part')
    (hsource : other.config.isSampleSource = workflow.config.isSampleSource)
    (hcomputes : workflow.executor.Computes answer) (hcomputes' : other.executor.Computes answer)
    {world : World σ} {world' : World τ} (hopen : (part.get world.state).closed = false)
    (hcatalog : butResults.rel (part.get world.state) (part'.get world'.state))
    {working working' : List TestCase} {testCase : TestCase} (hmem : testCase ∈ working)
    (hmem' : testCase ∈ working') :
    workflow.Decides working world testCase
        ((part.get world.state).outcome (!workflow.config.isSampleSource) answer testCase) ∧
      other.Decides working' world' testCase
        ((part.get world.state).outcome (!workflow.config.isSampleSource) answer testCase) := by
  refine ⟨h.decides hcomputes hopen (butResults.refl _) hmem, ?_⟩
  rw [← hsource]
  exact hother.decides hcomputes' hopen hcatalog hmem'

/-- A test case that expects five rows of what a link names. -/
def fiveRows (name link : String) : TestCase :=
  let suite : TestSuite := ⟨.ofNat 1, "nightly", none, none⟩
  let definition : TestDefinition := ⟨.ofNat 2, "tableRowCountToEqual", none, none, none⟩
  ⟨.ofNat 4, name, none, none, link, Entity.reference suite, Entity.reference definition,
    [⟨"value", "5"⟩]⟩

/-- A test case on a table whose rows were counted. -/
def countedRows : TestCase := fiveRows "rows" "<#E::table::svc.db.sch.orders>"

/-- A catalog with both. -/
def countedCatalog : MemoryCatalog :=
  let table : Table :=
    ⟨.ofNat 3, "orders", some "svc.db.sch.orders", [], none, none, some ⟨none, some 5, none⟩⟩
  let catalog : MemoryCatalog := {}
  catalog.insert table |>.insert countedRows

/-- A run with a clock that goes on, which writes its results back to the catalog. -/
def tickingRun : Workflow (MemoryCatalog × Int64 × Status) where
  config := .ofSource "sample-data" "nightly"
  client := MemoryCatalog.client.lift Part.first
  executor := (ValidatorRegistry.builtin.executor
    (Part.first.act fun now => (now, now + 1))).lift Part.second
  sink := some (Sink.metadata (MemoryCatalog.client.lift Part.first) (Part.second.comp Part.second))

/-- A run with a clock that stands still, whose results go to a file. -/
def filingRun : Workflow (MemoryCatalog × FileSink.Desk) where
  config := .ofSource "sample-data" "nightly"
  client := MemoryCatalog.client.lift Part.first
  executor := (ValidatorRegistry.builtin.executor (pure 0)).lift Part.second
  sink := some (Sink.lift Part.second (Sink.file Part.whole))

/-- The same outcome beside a test case whose table is not there, where the result is attached,
and beside one without a table, where a closed file refuses it. -/
theorem runAll_isolates_counted :
    tickingRun.Decides [fiveRows "ghost" "<#E::table::svc.db.sch.ghosts>", countedRows]
        ⟨(countedCatalog, 0, {}), []⟩ countedRows
        (countedCatalog.outcome false ValidatorRegistry.builtin.answer countedRows) ∧
      filingRun.Decides [countedRows, fiveRows "loose" "orders"]
        ⟨(countedCatalog, ⟨{}, { file := none }⟩), []⟩ countedRows
        (countedCatalog.outcome false ValidatorRegistry.builtin.answer countedRows) := by
  have hticking : tickingRun.RunsOn Part.first := runsOn_metadata _ _ _
  have hfiling : filingRun.RunsOn Part.first :=
    runsOn_beside _ _ (some (Sink.file Part.whole))
  have hconnections : false = !tickingRun.config.isSampleSource := by decide
  rw [hconnections]
  exact runAll_isolates hticking hfiling rfl
    ((ValidatorRegistry.builtin.computes_answer _).lift Part.second)
    ((ValidatorRegistry.builtin.computes_answer _).lift Part.second) rfl (butResults.refl _)
    (List.mem_cons_of_mem _ List.mem_cons_self) List.mem_cons_self

end Workflow

end DataQuality

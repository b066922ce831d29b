import DataQuality.Proofs.Workflow.Accounting
import DataQuality.Proofs.Workflow.Resolution
import Mathlib.Data.List.Perm.Subperm

/-!
# Delivery of results

A run that writes its results back to the catalog it works on loses none of them. Every test case
of its working set is stored under the key that the run reports it under, whether it was listed or
has just been created, so the catalog takes every result. The writes add the results, in the order
in which the executor gave them, and change nothing else in the catalog.
-/

namespace DataQuality

/-- What a call reports: the result that it gave, under the key of its test case. -/
def ExecutorCall.reported? (call : ExecutorCall) : Option (String × TestCaseResult) :=
  match call.answer with
  | .ok (some result) => some (call.testCase.key, result)
  | .ok none => none
  | .error _ => none

/-- The results that calls gave, in order. -/
def reported (calls : List ExecutorCall) : List (String × TestCaseResult) :=
  calls.filterMap ExecutorCall.reported?

theorem reported_append (calls others : List ExecutorCall) :
    reported (calls ++ others) = reported calls ++ reported others :=
  List.filterMap_append

/-! ## The working set is stored -/

namespace MemoryCatalog

variable {catalog final : MemoryCatalog} {declared : List SuiteDeclaration}
  {suites : List TestSuite} {answers : List (Declared × Except CatalogError TestCase)}

theorem Resolves.results_eq (h : Resolves catalog declared suites final) :
    final.results = catalog.results := by
  induction h with
  | done catalog => rfl
  | found _ _ ih => exact ih
  | created _ _ ih => exact ih

theorem Creations.results_eq (h : Creations catalog answers final) :
    final.results = catalog.results := by
  induction h with
  | done catalog => rfl
  | created _ hstores _ ih =>
      obtain ⟨drawn, ledger, -, rfl⟩ := hstores
      exact ih
  | failed _ _ ih => exact ih

/-- Creations put something under the key of each test case that they create, and take nothing
away. -/
theorem Creations.isSome_find? (h : Creations catalog answers final) {testCase : TestCase}
    (hstored : catalog.Holds testCase ∨ testCase ∈ Declared.created answers) :
    (final.find? .testCase testCase.key).isSome := by
  rw [h.find?_testCase]
  cases hlatest : latest testCase.key (Declared.created answers) with
  | some created => rfl
  | none =>
      rcases hstored with hholds | hcreated
      · have hfind : catalog.find? .testCase testCase.key = some testCase.toJson := hholds
        rw [hfind]
        rfl
      · have hsome := isSome_latest hcreated
        rw [hlatest] at hsome
        cases hsome

end MemoryCatalog

namespace Workflow

open MemoryCatalog

/-- However the suites of a run are resolved, the catalog stays as it is but for new suites. -/
theorem next_of_suites {config : WorkflowConfig} {world next : World MemoryCatalog}
    (hopen : world.state.closed = false) (hwell : world.state.WellFormed)
    {suites : List TestSuite}
    (h : Effect.attempt (alone config).suites world = (.ok suites, next)) :
    next.state.closed = false ∧ next.state.WellFormed ∧
      next.state.results = world.state.results := by
  rcases resolution_of_suites hopen hwell h with ⟨suite, -, -, hstate⟩ | ⟨-, hresolves⟩
  · rw [hstate]
    exact ⟨hopen, hwell, rfl⟩
  · exact ⟨hresolves.closed_eq.trans hopen, hresolves.wellFormed hwell, hresolves.results_eq⟩

/-- Every test case of a working set has its key in the catalog from which the run goes on. -/
theorem stored_of_workingSet {config : WorkflowConfig} {world loaded : World MemoryCatalog}
    (hopen : world.state.closed = false) (hwell : world.state.WellFormed)
    {working : List TestCase}
    (h : Effect.attempt (alone config).workingSet world = (.ok working, loaded)) :
    loaded.state.closed = false ∧ loaded.state.results = world.state.results ∧
      ∀ testCase ∈ working, (loaded.state.find? .testCase testCase.key).isSome := by
  obtain ⟨stored, listed, hlisting, rfl, rfl⟩ := exists_listing h
  obtain ⟨suites, next, hsuites, -⟩ := Effect.exists_of_attempt_bind hlisting
  obtain ⟨hnextOpen, hnextWell, hnextResults⟩ := next_of_suites hopen hwell hsuites
  obtain ⟨journal, hlist⟩ := attempt_listing hsuites hnextOpen hnextWell
  cases hlisting.symm.trans hlist
  have hcreations := creations_reconcile config.testSuites (next.state.listed suites)
    ⟨next.state, journal⟩ hnextOpen
  refine ⟨hcreations.agrees.closed_eq.trans hnextOpen,
    hcreations.results_eq.trans hnextResults, ?_⟩
  intro testCase htestCase
  apply hcreations.isSome_find?
  rw [creations_eq hlist] at htestCase
  rcases List.mem_append.mp htestCase with hlisted | hcreated
  · exact .inl (hnextWell.mem_listed.mp hlisted).1
  · exact .inr hcreated

end Workflow

/-! ## Writing back -/

/-- A catalog, the books of the sink that writes to it, and whatever else there is. -/
abbrev WithBooks (τ : Type) := MemoryCatalog × Status × τ

namespace WithBooks

variable {τ : Type}

/-- The catalog and the books stay as they are. -/
def aside : Frame (WithBooks τ) where
  rel before after := after.1 = before.1 ∧ after.2.1 = before.2.1
  refl _ := ⟨rfl, rfl⟩
  trans h h' := ⟨h'.1.trans h.1, h'.2.trans h.2⟩

/-- The catalog has these results more, the books have their keys more, and nothing else is
different in either. -/
structure Delivered (before : WithBooks τ) (entries : List (String × TestCaseResult))
    (after : WithBooks τ) : Prop where
  catalog_eq : after.1 = { before.1 with results := before.1.results ++ entries }
  books_eq : after.2.1 = { before.2.1 with records := before.2.1.records ++ entries.map (·.1) }

/-- The catalog takes results of these test cases. -/
structure Takes (state : WithBooks τ) (testCases : List TestCase) : Prop where
  not_closed : state.1.closed = false
  stored : ∀ testCase ∈ testCases, (state.1.find? .testCase testCase.key).isSome

variable {before middle after : WithBooks τ} {entries others : List (String × TestCaseResult)}
  {testCases : List TestCase}

theorem Delivered.of_aside (h : aside.rel before after) : Delivered before [] after where
  catalog_eq := by rw [h.1, List.append_nil]
  books_eq := by rw [h.2, List.map_nil, List.append_nil]

theorem Delivered.trans (h : Delivered before entries middle)
    (h' : Delivered middle others after) : Delivered before (entries ++ others) after where
  catalog_eq := by rw [h'.catalog_eq, h.catalog_eq, List.append_assoc]
  books_eq := by rw [h'.books_eq, h.books_eq, List.map_append, List.append_assoc]

theorem Takes.of_subset (h : Takes before testCases) {some : List TestCase}
    (hsubset : some ⊆ testCases) : Takes before some :=
  ⟨h.not_closed, fun testCase hmem => h.stored testCase (hsubset hmem)⟩

/-- What is delivered does not keep the catalog from taking more. -/
theorem Takes.delivered (h : Takes before testCases) (hdelivered : Delivered before entries after) :
    Takes after testCases := by
  refine ⟨?_, ?_⟩
  · rw [hdelivered.catalog_eq]
    exact h.not_closed
  · intro testCase hmem
    rw [hdelivered.catalog_eq]
    exact h.stored testCase hmem

end WithBooks

namespace Workflow

open WithBooks

variable {τ : Type} (config : WorkflowConfig) (executor : TestExecutor (WithBooks τ))

/-- The sink that writes to the catalog. -/
def backSink : Sink (WithBooks τ) :=
  Sink.metadata (MemoryCatalog.client.lift Part.first) (Part.second.comp Part.first)

/-- A run that writes its results back to the catalog it works on. -/
def writingBack : Workflow (WithBooks τ) where
  config := config
  client := MemoryCatalog.client.lift Part.first
  executor := executor
  sink := some backSink

/-! ## One write -/

theorem attempt_write (record : ResultRecord) (world : World (WithBooks τ)) :
    Effect.attempt (backSink.write record) world =
      match world.state.1.addResult record.testCase record.result with
      | (.ok (), catalog) =>
          (.ok (), ⟨(catalog, world.state.2.1.processed record.testCase, world.state.2.2),
            world.journal⟩)
      | (.error e, catalog) =>
          (.error (.catalog e),
            ⟨(catalog, world.state.2.1.failure record.testCase, world.state.2.2),
              world.journal ++
                [⟨.warn, s!"Failed to store result of {record.testCase}: {e.message}"⟩]⟩) := by
  have hadd : (((MemoryCatalog.client.lift Part.first).addResult record.testCase
      record.result).run.run world : _ × World (WithBooks τ)) =
        ((world.state.1.addResult record.testCase record.result).1,
          ⟨((world.state.1.addResult record.testCase record.result).2, world.state.2),
            world.journal⟩) := rfl
  change Effect.attempt (Sink.storeResult _ _ record) world = _
  rw [Sink.storeResult, Effect.attempt_bind, Effect.attempt_lift, hadd]
  cases world.state.1.addResult record.testCase record.result with
  | mk answer catalog =>
      cases answer with
      | ok _ => rfl
      | error e => rfl

/-- A write that fails is entered in the books as a failure. -/
theorem failure_of_attempt_write {world next : World (WithBooks τ)} {record : ResultRecord}
    {e : SinkError} (h : Effect.attempt (backSink.write record) world = (.error e, next)) :
    next.state.2.1 = world.state.2.1.failure record.testCase := by
  rw [attempt_write] at h
  split at h
  next => cases h
  next =>
    cases h
    rfl

/-- The result of a test case that the catalog knows is added to it. -/
theorem delivered_forward {world : World (WithBooks τ)} {testCase : TestCase}
    (htakes : Takes world.state [testCase]) (table : String) (result : TestCaseResult) :
    Delivered world.state [(testCase.key, result)]
      (((writingBack config executor).forward ⟨testCase.key, table, result⟩).run
        world).2.state := by
  have hadd := MemoryCatalog.addResult_of_known htakes.not_closed
    (htakes.stored testCase List.mem_cons_self) result
  have hwrite := attempt_write ⟨testCase.key, table, result⟩ world
  rw [hadd] at hwrite
  have hrun : (backSink.write ⟨testCase.key, table, result⟩).run.run world = _ := hwrite
  unfold forward
  simp only [writingBack, Effect.run_bind]
  rw [hrun]
  exact ⟨rfl, rfl⟩

/-! ## What each action delivers -/

theorem filterMap_call?_map {outcome : Outcome}
    (h : ∀ testCase, Fate.call? ⟨testCase, outcome⟩ = none) (testCases : List TestCase) :
    (testCases.map fun testCase => Fate.mk testCase outcome).filterMap Fate.call? = [] := by
  apply List.filterMap_eq_nil_iff.mpr
  intro fate hfate
  obtain ⟨testCase, -, rfl⟩ := List.mem_map.mp hfate
  exact h testCase

/-- Building a context only looks at the catalog. -/
theorem tries_tableContext (table : String) :
    aside.Tries ((writingBack config executor).tableContext table) := by
  have hbuild := MemoryCatalog.tries_build (.still MemoryCatalog) (!config.isSampleSource) table
  intro world
  change aside.rel _ (Effect.attempt (TableContext.build
    (MemoryCatalog.client.lift Part.first) (!config.isSampleSource) table) world).2.state
  rw [TableContext.build_lift]
  exact ⟨hbuild (Part.first.world world), rfl⟩

/-- An action delivers what its fates report, to a catalog that takes results of its test
cases. -/
def Delivers (testCases : List TestCase) (action : StatusM (WithBooks τ) Unit)
    (fates : World (WithBooks τ) → List Fate) : Prop :=
  ∀ world, Takes world.state testCases →
    Delivered world.state (reported ((fates world).filterMap Fate.call?))
      (action.leaves world).state

/-- Of two actions the second delivers where the first has delivered. -/
theorem Delivers.bind {testCases : List TestCase} {action next : StatusM (WithBooks τ) Unit}
    {watched watchedNext : StatusM (WithBooks τ × List ExecutorCall) Unit}
    {fates nextFates : World (WithBooks τ) → List Fate}
    (h : Delivers testCases action fates) (hkeeps : KeepsTo action watched fates)
    (hnext : Delivers testCases next nextFates)
    (hkeepsNext : KeepsTo next watchedNext nextFates) :
    Delivers testCases (action >>= fun _ => next)
      fun world => fates world ++ nextFates (action.leaves world) := by
  intro world htakes
  have hfirst := h world htakes
  have hsecond := hnext (action.leaves world) (htakes.delivered hfirst)
  rw [hkeeps.leaves_bind hkeepsNext, List.filterMap_append, reported_append]
  exact hfirst.trans hsecond

/-- An action that leaves catalog and books alone delivers nothing. -/
theorem Delivers.of_proceeds {testCases : List TestCase} {action : StatusM (WithBooks τ) Unit}
    {fates : World (WithBooks τ) → List Fate} (h : Proceeds aside action)
    (hnone : ∀ world, (fates world).filterMap Fate.call? = []) :
    Delivers testCases action fates := by
  intro world _
  rw [hnone world]
  exact .of_aside (h {} world)

theorem Delivers.of_subset {testCases some : List TestCase}
    {action : StatusM (WithBooks τ) Unit} {fates : World (WithBooks τ) → List Fate}
    (h : Delivers some action fates) (hsubset : some ⊆ testCases) :
    Delivers testCases action fates :=
  fun world htakes => h world (htakes.of_subset hsubset)

section Evaluating

variable {executor} (hexecutor : ∀ context testCase, aside.Tries (executor.run context testCase))

include hexecutor

/-- Evaluating a test case delivers the result of the executor, if it gives one. -/
theorem delivers_runTestCase (context : TableContext) (testCase : TestCase) :
    Delivers [testCase] ((writingBack config executor).runTestCase context testCase)
      ((writingBack config executor).casesFates context [testCase]) := by
  intro world htakes
  have haside := hexecutor context testCase world
  cases hattempt : Effect.attempt (executor.run context testCase) world with
  | mk answer next =>
      rw [hattempt] at haside
      have hevaluated : Delivered world.state [] next.state := .of_aside haside
      have hrun : ((writingBack config executor).executor.run context testCase).run.run world =
          (answer, next) := hattempt
      have hfate : (writingBack config executor).casesFates context [testCase] world =
          [⟨testCase, .evaluated context answer⟩] := by
        simp only [casesFates]
        exact congrArg (fun run => [Fate.mk testCase (.evaluated context run.1)]) hattempt
      simp only [hfate, StatusM.leaves, runTestCase, StatusM.run_bind, StatusM.run_lift, hrun]
      cases answer with
      | error e => exact hevaluated
      | ok result =>
          cases result with
          | none => exact hevaluated
          | some result =>
              have hwritten := delivered_forward config executor (htakes.delivered hevaluated)
                context.tableName result
              exact hevaluated.trans hwritten

theorem delivers_runTestCases (context : TableContext) (testCases : List TestCase) :
    Delivers testCases ((writingBack config executor).runTestCases context testCases)
      ((writingBack config executor).casesFates context testCases) := by
  induction testCases with
  | nil => exact fun world _ => .of_aside ⟨rfl, rfl⟩
  | cons testCase rest ih =>
      have hfirst := delivers_runTestCase config hexecutor context testCase
      have hhead : [testCase] ⊆ testCase :: rest :=
        List.cons_subset.mpr ⟨List.mem_cons_self, List.nil_subset _⟩
      exact (hfirst.of_subset hhead).bind
        ((writingBack config executor).runTestCase_keepsTo context testCase)
        (ih.of_subset (List.subset_cons_self _ _))
        ((writingBack config executor).runTestCases_keepsTo context rest)

/-- The test cases of a table deliver what they report. Without context they report nothing, and
building one changes nothing. -/
theorem delivers_runTable (table : String) (testCases : List TestCase) :
    Delivers testCases ((writingBack config executor).runTable table testCases)
      ((writingBack config executor).tableFates table testCases) := by
  intro world htakes
  have hbuilt : aside.rel world.state
      (Effect.attempt ((writingBack config executor).tableContext table) world).2.state :=
    tries_tableContext config executor table world
  cases hattempt : Effect.attempt ((writingBack config executor).tableContext table) world with
  | mk answer next =>
      rw [hattempt] at hbuilt
      have hcontext : Delivered world.state [] next.state := .of_aside hbuilt
      have htakesNext := htakes.delivered hcontext
      have hrun : (TableContext.build (writingBack config executor).client
          (!(writingBack config executor).config.isSampleSource) table).run.run world =
            (answer, next) := hattempt
      simp only [tableFates, hattempt, StatusM.leaves, runTable, StatusM.run_bind,
        StatusM.run_lift, hrun]
      cases answer with
      | ok context =>
          have hcases := delivers_runTestCases config hexecutor context testCases next htakesNext
          exact hcontext.trans hcases
      | error cause =>
          have hskipped : Delivers testCases
              (StateT.lift (Effect.log .warn s!"Skipping table {table}: {cause.message}") >>=
                fun _ => failAll testCases : StatusM (WithBooks τ) Unit)
              fun _ => testCases.map fun testCase => ⟨testCase, .withoutContext cause⟩ :=
            .of_proceeds (.lift_bind (aside.keeps_log _ _) fun _ => proceeds_failAll testCases)
              fun _ => filterMap_call?_map (fun _ => rfl) testCases
          exact hcontext.trans (hskipped next htakesNext)

theorem delivers_runTables (groups : List (String × List TestCase)) :
    Delivers (groups.flatMap (·.2)) ((writingBack config executor).runTables groups)
      ((writingBack config executor).tablesFates groups) := by
  induction groups with
  | nil => exact fun world _ => .of_aside ⟨rfl, rfl⟩
  | cons group rest ih =>
      have hfirst := delivers_runTable config hexecutor group.1 group.2
      exact (hfirst.of_subset (List.subset_append_left _ _)).bind
        ((writingBack config executor).runTable_keepsTo group.1 group.2)
        (ih.of_subset (List.subset_append_right _ _))
        ((writingBack config executor).runTables_keepsTo rest)

/-- A run delivers what its working set reports. -/
theorem delivers_runAll (working : List TestCase) :
    Delivers working ((writingBack config executor).runAll working)
      ((writingBack config executor).fates working) := by
  have hprelude : Delivers working
      (prelude (TableGroups.ofTestCases working) : StatusM (WithBooks τ) Unit)
      fun _ => unlinkedFates (TableGroups.ofTestCases working).unlinked :=
    .of_proceeds (.lift_bind (aside.keeps_log _ _) fun _ => proceeds_failUnlinked _)
      fun _ => filterMap_call?_map (fun _ => rfl) _
  have htables := delivers_runTables config hexecutor (TableGroups.ofTestCases working).tables
  have hsubset : (TableGroups.ofTestCases working).tables.flatMap (·.2) ⊆ working := by
    intro testCase hmem
    exact (TableGroups.perm_ofTestCases working).mem_iff.mp (List.mem_append_right _ hmem)
  exact hprelude.bind (prelude_keepsTo _) (htables.of_subset hsubset)
    ((writingBack config executor).runTables_keepsTo _)

end Evaluating

/-! ## No result is lost -/

/-- The test cases of calls come in the order of their fates. -/
theorem testCases_sublist (fates : List Fate) :
    ((fates.filterMap Fate.call?).map (·.testCase)).Sublist (fates.map (·.testCase)) := by
  induction fates with
  | nil => exact .slnil
  | cons fate rest ih =>
      cases hcall : fate.call? with
      | none =>
          rw [List.filterMap_cons_none hcall]
          exact ih.cons _
      | some call =>
          have htestCase : call.testCase = fate.testCase := by
            obtain ⟨testCase, outcome⟩ := fate
            cases outcome with
            | unlinked => cases hcall
            | withoutContext cause => cases hcall
            | evaluated context answer =>
                cases hcall
                rfl
          rw [List.filterMap_cons_some hcall, List.map_cons, List.map_cons, htestCase]
          exact ih.cons_cons _

/-- What an execution that succeeds leaves: what evaluating its working set leaves. A watched one
notes the calls that the fates stem from. -/
theorem exists_of_execute {σ : Type} (workflow : Workflow σ) {status after : Status}
    {world final : World σ}
    (h : (workflow.execute.run.run status).run world = ((.ok (), after), final)) :
    ∃ working loaded,
      Effect.attempt workflow.workingSet world = (.ok working, loaded) ∧
      final = (workflow.runAll working).leaves loaded ∧
      (workflow.watched.execute.run.run status).run (world.withNotes []) =
        ((.ok (), after),
          final.withNotes ((workflow.fates working loaded).filterMap Fate.call?)) := by
  rw [run_execute] at h
  have hwatched := workflow.workingSet_watched world []
  cases hload : Effect.attempt workflow.workingSet world with
  | mk answer loaded =>
      rw [hload] at h hwatched
      cases answer with
      | error e => cases h
      | ok working =>
          have hkeeps := workflow.runAll_keepsTo working
          simp only [hkeeps.run_eq] at h
          cases h
          refine ⟨working, loaded, rfl, rfl, ?_⟩
          rw [run_execute, hwatched]
          simp only [hkeeps.watched_eq, List.nil_append]

/-- Once the working set is found, the catalog takes results of all of it. The results so far and
the books are as they were. -/
theorem takes_of_workingSet {world loaded : World (WithBooks τ)}
    (hwell : world.state.1.WellFormed) (hopen : world.state.1.closed = false)
    {working : List TestCase}
    (h : Effect.attempt (writingBack config executor).workingSet world = (.ok working, loaded)) :
    Takes loaded.state working ∧ loaded.state.1.results = world.state.1.results ∧
      loaded.state.2.1 = world.state.2.1 := by
  have hreads : ReadsThrough Part.first (writingBack config executor) (alone config) := ⟨rfl, rfl⟩
  rw [hreads.workingSet, Part.attempt_liftExcept] at h
  obtain ⟨hworking, rfl⟩ := Prod.mk.inj h
  obtain ⟨hloadedOpen, hresults, hstored⟩ :=
    stored_of_workingSet hopen hwell (Prod.ext hworking rfl)
  exact ⟨⟨hloadedOpen, hstored⟩, hresults, rfl⟩

/-- A run on an open catalog that writes its results back to it, with an executor that leaves the
catalog and the books of the sink alone, delivers every result: the catalog has those that the
calls of the executor gave, in order and under the keys of the test cases, the books have their
keys, and from the moment the working set is found nothing else changes in either. The books have
no new failure, so no write failed. -/
theorem execute_delivers {executor : TestExecutor (WithBooks τ)}
    (hexecutor : ∀ context testCase, aside.Tries (executor.run context testCase))
    {world final : World (WithBooks τ)} {status after : Status}
    (hreachable : world.state.1.Reachable) (hopen : world.state.1.closed = false)
    (h : ((writingBack config executor).execute.run.run status).run world =
      ((.ok (), after), final)) :
    ∃ working loaded calls,
      Effect.attempt (writingBack config executor).workingSet world = (.ok working, loaded) ∧
      ((writingBack config executor).watched.execute.run.run status).run (world.withNotes []) =
        ((.ok (), after), final.withNotes calls) ∧
      (calls.map (·.testCase)).Subperm working ∧
      final.state.1 =
        { loaded.state.1 with results := world.state.1.results ++ reported calls } ∧
      final.state.2.1 =
        { world.state.2.1 with
          records := world.state.2.1.records ++ (reported calls).map (·.1) } ∧
      ∀ record (found next : World (WithBooks τ)) e,
        Effect.attempt (backSink.write record) found = (.error e, next) →
          next.state.2.1 = found.state.2.1.failure record.testCase := by
  obtain ⟨working, loaded, hload, rfl, hwatched⟩ := exists_of_execute _ h
  obtain ⟨htakes, hresults, hbooks⟩ :=
    takes_of_workingSet config executor hreachable.wellFormed hopen hload
  have hdelivered := delivers_runAll config hexecutor working loaded htakes
  have haccounts := (writingBack config executor).accounts_fates working status loaded
  refine ⟨working, loaded, _, hload, hwatched, ?_, ?_, ?_, fun _ _ _ _ =>
    failure_of_attempt_write⟩
  · exact (testCases_sublist _).subperm.trans haccounts.perm.subperm
  · rw [← hresults]
    exact hdelivered.catalog_eq
  · rw [← hbooks]
    exact hdelivered.books_eq

/-- An executor that gives the same result on every test case. -/
def steadyExecutor : TestExecutor (WithBooks Unit) :=
  ⟨"steady", fun _ _ => pure (some ⟨0, .success, none, []⟩)⟩

/-- Of three test cases one has a table: its result alone reaches the catalog and the books. -/
theorem execute_delivers_nightly :
    ∃ (final loaded : World (WithBooks Unit)) (calls : List ExecutorCall),
      ((writingBack nightlyRun.config steadyExecutor).execute.run.run {}).run
          ⟨(nightlyCatalog, {}, ()), []⟩ =
        ((.ok (), { records := ["rows"], failures := ["loose", "ghost"] }), final) ∧
      final.state.1 = { loaded.state.1 with results := [("rows", ⟨0, .success, none, []⟩)] } ∧
      final.state.2.1 = { records := ["rows"] } ∧
      reported calls = [("rows", ⟨0, .success, none, []⟩)] := by
  let run := ((writingBack nightlyRun.config steadyExecutor).execute.run.run {}).run
    ⟨(nightlyCatalog, {}, ()), []⟩
  have hevaluated : run.1.1.toOption = some () ∧
      run.1.2 = { records := ["rows"], failures := ["loose", "ghost"] } ∧
      run.2.state.1.results = [("rows", ⟨0, .success, none, []⟩)] := by
    decide +kernel
  obtain ⟨hok, hstatus, hresults⟩ := hevaluated
  obtain ⟨final, hrun⟩ := exists_run_ok hok hstatus
  have hreachable : nightlyCatalog.Reachable :=
    .insert (.insert (.insert (.insert (.insert (.empty _) (.testSuite _)) (.testCase _))
      (.testCase _)) (.testCase _)) (.table _)
  have haside : ∀ context testCase, aside.Tries (steadyExecutor.run context testCase) :=
    fun _ _ world => aside.refl world.state
  obtain ⟨working, loaded, calls, -, -, -, hcatalog, hbooks, -⟩ :=
    execute_delivers nightlyRun.config haside hreachable rfl hrun
  rw [hrun] at hresults
  have hreported : reported calls = [("rows", ⟨0, .success, none, []⟩)] := by
    rw [hcatalog] at hresults
    exact hresults
  rw [hreported] at hcatalog hbooks
  exact ⟨final, loaded, calls, hrun, hcatalog, hbooks, hreported⟩

end Workflow

end DataQuality

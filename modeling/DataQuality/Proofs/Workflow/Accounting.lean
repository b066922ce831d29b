import DataQuality.Catalog.Memory
import DataQuality.Proofs.Workflow.Fate
import DataQuality.Proofs.Workflow.Groups

/-!
# Accounting of a run

A run that succeeds accounts for its working set: every test case enters the status once, as
processed or as failed according to its fate, and the executor is called once for every test case
of a table that has a context.
-/

namespace DataQuality.Workflow

variable {σ : Type} (workflow : Workflow σ)

/-! ## What each action keeps to -/

/-- A test case enters the status by the answer of the executor alone, whatever a sink does. -/
theorem run_runTestCase (context : TableContext) (testCase : TestCase) (status : Status)
    (world : World σ) :
    ((workflow.runTestCase context testCase).run status).run world =
      (((), status.enter (workflow.casesFates context [testCase] world)),
        (workflow.runTestCase context testCase).leaves world) := by
  simp only [casesFates, StatusM.leaves, runTestCase, StatusM.run_bind, StatusM.run_lift]
  cases h : Effect.attempt (workflow.executor.run context testCase) world with
  | mk answer next =>
      have hrun : (workflow.executor.run context testCase).run.run world = (answer, next) := h
      rw [hrun]
      cases answer with
      | error e =>
          rw [Status.enter_failed status rfl]
          rfl
      | ok result =>
          rw [Status.enter_processed status rfl]
          cases result with
          | none => rfl
          | some result => rfl

/-- A watched run of a test case notes one call. -/
theorem run_runTestCase_watched (context : TableContext) (testCase : TestCase) (status : Status)
    (world : World σ) (notes : List ExecutorCall) :
    ((workflow.watched.runTestCase context testCase).run status).run (world.withNotes notes) =
      ((((workflow.runTestCase context testCase).run status).run world).1,
        (((workflow.runTestCase context testCase).run status).run world).2.withNotes
          (notes ++
            [⟨context, testCase,
              (Effect.attempt (workflow.executor.run context testCase) world).1⟩])) := by
  have hnoted := workflow.executor.run_noted context testCase world notes
  simp only [runTestCase, StatusM.run_bind, StatusM.run_lift]
  cases h : Effect.attempt (workflow.executor.run context testCase) world with
  | mk answer next =>
      rw [h] at hnoted
      have hrun : (workflow.executor.run context testCase).run.run world = (answer, next) := h
      have hwatched : (workflow.watched.executor.run context testCase).run.run
          (world.withNotes notes) =
            (answer, next.withNotes (notes ++ [⟨context, testCase, answer⟩])) := hnoted
      rw [hrun, hwatched]
      cases answer with
      | error e => rfl
      | ok result =>
          cases result with
          | none => rfl
          | some result =>
              simp only [forward_watched]
              rfl

theorem runTestCase_keepsTo (context : TableContext) (testCase : TestCase) :
    KeepsTo (workflow.runTestCase context testCase)
      (workflow.watched.runTestCase context testCase)
      (workflow.casesFates context [testCase]) where
  run_eq := workflow.run_runTestCase context testCase
  watched_eq status world notes := by
    rw [run_runTestCase_watched, run_runTestCase]
    rfl

theorem runTestCases_keepsTo (context : TableContext) (testCases : List TestCase) :
    KeepsTo (workflow.runTestCases context testCases)
      (workflow.watched.runTestCases context testCases)
      (workflow.casesFates context testCases) := by
  induction testCases with
  | nil => exact .pure
  | cons testCase rest ih => exact (workflow.runTestCase_keepsTo context testCase).bind ih

/-- Failing test cases keeps to fates that are failures without a call. -/
theorem failAll_keepsTo (outcome : Outcome) (hfails : outcome.fails = true)
    (hcontext : ∀ context, outcome.context? ≠ some (.ok context)) (testCases : List TestCase) :
    KeepsTo (failAll testCases : StatusM σ Unit) (failAll testCases) fun _ =>
      testCases.map fun testCase => ⟨testCase, outcome⟩ := by
  induction testCases with
  | nil => exact .pure
  | cons testCase rest ih =>
      have hcall : Fate.call? ⟨testCase, outcome⟩ = none := by
        cases outcome with
        | unlinked => rfl
        | withoutContext cause => rfl
        | evaluated context answer => exact absurd rfl (hcontext context)
      exact (KeepsTo.failure ⟨testCase, outcome⟩ hfails hcall).bind ih

theorem runTable_keepsTo (table : String) (testCases : List TestCase) :
    KeepsTo (workflow.runTable table testCases) (workflow.watched.runTable table testCases)
      (workflow.tableFates table testCases) := by
  change KeepsTo _ _ fun world =>
    workflow.contextFates testCases (Effect.attempt (workflow.tableContext table) world).1
      (Effect.attempt (workflow.tableContext table) world).2
  refine KeepsTo.lift_bind (workflow.buildContext_watched _ table) fun answer => ?_
  cases answer with
  | ok context => exact workflow.runTestCases_keepsTo context testCases
  | error cause =>
      have hfail : KeepsTo (failAll testCases : StatusM σ Unit) (failAll testCases) _ :=
        failAll_keepsTo (.withoutContext cause) rfl (fun context h => by cases h) testCases
      exact KeepsTo.log_bind .warn s!"Skipping table {table}: {cause.message}" hfail

theorem runTables_keepsTo (groups : List (String × List TestCase)) :
    KeepsTo (workflow.runTables groups) (workflow.watched.runTables groups)
      (workflow.tablesFates groups) := by
  induction groups with
  | nil => exact .pure
  | cons group rest ih => exact (workflow.runTable_keepsTo group.1 group.2).bind ih

theorem failUnlinked_keepsTo (testCases : List TestCase) :
    KeepsTo (failUnlinked testCases : StatusM σ Unit) (failUnlinked testCases) fun _ =>
      unlinkedFates testCases := by
  induction testCases with
  | nil => exact .pure
  | cons testCase rest ih =>
      exact KeepsTo.log_bind _ _ ((KeepsTo.failure ⟨testCase, .unlinked⟩ rfl rfl).bind ih)

theorem prelude_keepsTo (groups : TableGroups) :
    KeepsTo (prelude groups : StatusM σ Unit) (prelude groups) fun _ =>
      unlinkedFates groups.unlinked :=
  KeepsTo.log_bind _ _ (failUnlinked_keepsTo _)

/-- Evaluating a working set keeps to its fates. -/
theorem runAll_keepsTo (testCases : List TestCase) :
    KeepsTo (workflow.runAll testCases) (workflow.watched.runAll testCases)
      (workflow.fates testCases) :=
  (prelude_keepsTo (TableGroups.ofTestCases testCases)).bind
    (workflow.runTables_keepsTo (TableGroups.ofTestCases testCases).tables)

/-! ## The fates of a working set -/

theorem casesFates_testCases (context : TableContext) (testCases : List TestCase)
    (world : World σ) :
    (workflow.casesFates context testCases world).map (·.testCase) = testCases := by
  induction testCases generalizing world with
  | nil => rfl
  | cons testCase rest ih => simp only [casesFates, List.map_cons, ih]

theorem casesFates_context (context : TableContext) (testCases : List TestCase)
    (world : World σ) :
    ∀ fate ∈ workflow.casesFates context testCases world,
      fate.outcome.context? = some (.ok context) := by
  induction testCases generalizing world with
  | nil => exact fun fate h => absurd h List.not_mem_nil
  | cons testCase rest ih =>
      intro fate hfate
      rcases List.mem_cons.mp hfate with rfl | hfate
      · rfl
      · exact ih _ fate hfate

theorem contextFates_testCases (testCases : List TestCase)
    (built : Except ContextError TableContext) (world : World σ) :
    (workflow.contextFates testCases built world).map (·.testCase) = testCases := by
  cases built with
  | ok context => exact workflow.casesFates_testCases context testCases world
  | error cause =>
      rw [contextFates, List.map_map]
      exact List.map_id testCases

/-- The test cases of a table share what building its context gave. -/
theorem contextFates_context (testCases : List TestCase)
    (built : Except ContextError TableContext) (world : World σ) :
    ∀ fate ∈ workflow.contextFates testCases built world,
      fate.outcome.context? = some built := by
  intro fate hfate
  cases built with
  | ok context => exact workflow.casesFates_context context testCases world fate hfate
  | error cause =>
      obtain ⟨testCase, -, rfl⟩ := List.mem_map.mp hfate
      rfl

theorem tablesFates_testCases (groups : List (String × List TestCase)) (world : World σ) :
    (workflow.tablesFates groups world).map (·.testCase) = groups.flatMap (·.2) := by
  induction groups generalizing world with
  | nil => rfl
  | cons group rest ih =>
      simp only [tablesFates, tableFates, List.map_append, contextFates_testCases, ih,
        List.flatMap_cons]

/-- Groups name the table of their test cases. -/
def Grouped (groups : List (String × List TestCase)) : Prop :=
  ∀ group ∈ groups, ∀ testCase ∈ group.2,
    EntityLink.tableOf? testCase.entityLink = some group.1

theorem tableOf?_of_mem_tablesFates {groups : List (String × List TestCase)}
    (h : Grouped groups) {world : World σ} {fate : Fate}
    (hfate : fate ∈ workflow.tablesFates groups world) :
    ∃ group ∈ groups, EntityLink.tableOf? fate.testCase.entityLink = some group.1 := by
  have hmem : fate.testCase ∈ groups.flatMap (·.2) :=
    workflow.tablesFates_testCases groups world ▸ List.mem_map_of_mem hfate
  obtain ⟨group, hgroup, htestCase⟩ := List.mem_flatMap.mp hmem
  exact ⟨group, hgroup, h group hgroup _ htestCase⟩

/-- One context is built for each table, and its test cases share what that gave. -/
theorem tablesFates_context {groups : List (String × List TestCase)}
    (hsorted : Keyed.Sorted groups) (h : Grouped groups) (table : String) (world : World σ) :
    ∃ found, ∀ fate ∈ workflow.tablesFates groups world,
      EntityLink.tableOf? fate.testCase.entityLink = some table →
        fate.outcome.context? =
          some (Effect.attempt (workflow.tableContext table) found).1 := by
  induction groups generalizing world with
  | nil => exact ⟨world, fun fate hfate => absurd hfate List.not_mem_nil⟩
  | cons group rest ih =>
      obtain ⟨name, testCases⟩ := group
      obtain ⟨hhead, hrest⟩ := List.pairwise_cons.mp hsorted
      have hgrouped : Grouped rest := fun group hgroup => h group (List.mem_cons_of_mem _ hgroup)
      obtain ⟨found, hfound⟩ :=
        ih hrest hgrouped ((workflow.runTable name testCases).leaves world)
      have hfirst : ∀ fate ∈ workflow.tableFates name testCases world,
          EntityLink.tableOf? fate.testCase.entityLink = some name := by
        intro fate hfate
        have hmem : fate.testCase ∈ testCases :=
          workflow.contextFates_testCases testCases _ _ ▸ List.mem_map_of_mem hfate
        exact h _ List.mem_cons_self _ hmem
      -- the context is asked for where the run comes to the group of the table
      by_cases hname : table = name
      · subst hname
        refine ⟨world, fun fate hfate htable => ?_⟩
        rcases List.mem_append.mp hfate with hfate | hfate
        · exact workflow.contextFates_context testCases _ _ fate hfate
        · -- later groups name later tables
          obtain ⟨group, hgroup, hother⟩ :=
            workflow.tableOf?_of_mem_tablesFates hgrouped hfate
          have hlt := hhead group hgroup
          rw [Option.some.inj (htable.symm.trans hother)] at hlt
          exact absurd hlt (String.lt_irrefl _)
      · refine ⟨found, fun fate hfate htable => ?_⟩
        rcases List.mem_append.mp hfate with hfate | hfate
        · exact absurd (Option.some.inj (htable.symm.trans (hfirst fate hfate))) hname
        · exact hfound fate hfate htable

theorem grouped_tables (testCases : List TestCase) :
    Grouped (TableGroups.ofTestCases testCases).tables := by
  intro group hgroup testCase htestCase
  obtain ⟨hgroup, -⟩ := TableGroups.mem_tables hgroup
  rw [hgroup] at htestCase
  exact (TableGroups.mem_targeting.mp htestCase).2

/-- What a run that succeeds says of its working set, given the fates in it. -/
structure Accounts (working : List TestCase) (fates : List Fate) (before after : Status) :
    Prop where
  /-- The fates come in order: the unlinked test cases, then those of each table. -/
  order : fates.map (·.testCase) =
    TableGroups.targeting none working ++
      (TableGroups.tableNames working).flatMap fun table =>
        TableGroups.targeting (some table) working
  /-- The tables are those that links name, in increasing order. -/
  tables : (TableGroups.tableNames working).Pairwise (· < ·) ∧
    ∀ table, table ∈ TableGroups.tableNames working ↔
      ∃ testCase ∈ working, EntityLink.tableOf? testCase.entityLink = some table
  /-- Every test case has one fate. -/
  perm : (fates.map (·.testCase)).Perm working
  records : after.records = before.records ++ Fate.processedKeys fates
  failures : after.failures = before.failures ++ Fate.failedKeys fates
  warnings : after.warnings = before.warnings
  /-- Every test case gives one key, to one of the two lists. -/
  keys : (Fate.processedKeys fates ++ Fate.failedKeys fates).Perm (working.map (·.key))
  unlinked : ∀ fate ∈ fates,
    fate.outcome = .unlinked ↔ EntityLink.tableOf? fate.testCase.entityLink = none

theorem fates_testCases (working : List TestCase) (world : World σ) :
    (workflow.fates working world).map (·.testCase) =
      (TableGroups.ofTestCases working).unlinked ++
        (TableGroups.ofTestCases working).tables.flatMap (·.2) := by
  rw [fates, List.map_append, tablesFates_testCases, unlinkedFates, List.map_map]
  exact congrArg (· ++ _) (List.map_id _)

/-- The test cases of a table share what building its context gave. -/
theorem fates_context (working : List TestCase) (world : World σ) (table : String) :
    ∃ found, ∀ fate ∈ workflow.fates working world,
      EntityLink.tableOf? fate.testCase.entityLink = some table →
        fate.outcome.context? =
          some (Effect.attempt (workflow.tableContext table) found).1 := by
  obtain ⟨found, hfound⟩ := workflow.tablesFates_context
    (TableGroups.sorted_tables working) (grouped_tables working) table
    ((prelude (TableGroups.ofTestCases working)).leaves world)
  refine ⟨found, fun fate hfate htable => ?_⟩
  rcases List.mem_append.mp hfate with hfate | hfate
  · obtain ⟨testCase, htestCase, rfl⟩ := List.mem_map.mp hfate
    rw [TableGroups.unlinked_ofTestCases] at htestCase
    rw [(TableGroups.mem_targeting.mp htestCase).2] at htable
    cases htable
  · exact hfound fate hfate htable

theorem fates_unlinked_iff (working : List TestCase) (world : World σ) :
    ∀ fate ∈ workflow.fates working world,
      fate.outcome = .unlinked ↔ EntityLink.tableOf? fate.testCase.entityLink = none := by
  intro fate hfate
  rcases List.mem_append.mp hfate with hfate | hfate
  · obtain ⟨testCase, htestCase, rfl⟩ := List.mem_map.mp hfate
    rw [TableGroups.unlinked_ofTestCases] at htestCase
    exact ⟨fun _ => (TableGroups.mem_targeting.mp htestCase).2, fun _ => rfl⟩
  · obtain ⟨group, -, htable⟩ :=
      workflow.tableOf?_of_mem_tablesFates (grouped_tables working) hfate
    obtain ⟨found, hfound⟩ := workflow.fates_context working world group.1
    have hcontext := hfound fate (List.mem_append_right _ hfate) htable
    constructor
    · intro hunlinked
      rw [hunlinked] at hcontext
      cases hcontext
    · intro hnone
      rw [hnone] at htable
      cases htable

/-- The fates of a working set account for it. -/
theorem accounts_fates (working : List TestCase) (status : Status) (world : World σ) :
    Accounts working (workflow.fates working world) status
      (status.enter (workflow.fates working world)) := by
  have hperm : ((workflow.fates working world).map (·.testCase)).Perm working := by
    rw [fates_testCases]
    exact TableGroups.perm_ofTestCases working
  refine
    { order := ?_
      tables := ⟨TableGroups.tableNames_pairwise working, fun _ => TableGroups.mem_tableNames⟩
      perm := hperm
      records := rfl
      failures := rfl
      warnings := rfl
      keys := ?_
      unlinked := workflow.fates_unlinked_iff working world }
  · rw [fates_testCases, TableGroups.unlinked_ofTestCases, TableGroups.tables_eq_map,
      List.flatMap_map]
  · refine (Fate.keys_perm _).trans ?_
    have hkeys := hperm.map TestCase.key
    rwa [List.map_map] at hkeys

/-- A run that succeeds accounts for the working set it found, builds one context for each table,
and calls the executor once for each test case of a table that has a context. -/
theorem execute_accounts {status after : Status} {world final : World σ}
    (h : (workflow.execute.run.run status).run world = ((.ok (), after), final)) :
    ∃ working loaded,
      Effect.attempt workflow.workingSet world = (.ok working, loaded) ∧
      Accounts working (workflow.fates working loaded) status after ∧
      (∀ table, ∃ found, ∀ fate ∈ workflow.fates working loaded,
        EntityLink.tableOf? fate.testCase.entityLink = some table →
          fate.outcome.context? =
            some (Effect.attempt (workflow.tableContext table) found).1) ∧
      (workflow.watched.execute.run.run status).run (world.withNotes []) =
        ((.ok (), after),
          final.withNotes ((workflow.fates working loaded).filterMap Fate.call?)) := by
  rw [run_execute] at h
  have hwatched := workflow.workingSet_watched world []
  cases hload : Effect.attempt workflow.workingSet world with
  | mk answer loaded =>
      rw [hload] at h hwatched
      cases answer with
      | error e => cases h
      | ok working =>
          have hkeeps := workflow.runAll_keepsTo working
          simp only [hkeeps.run_eq] at h
          cases h
          refine ⟨working, loaded, rfl, workflow.accounts_fates working status loaded,
            workflow.fates_context working loaded, ?_⟩
          rw [run_execute, hwatched]
          simp only [hkeeps.watched_eq, List.nil_append]

/-- A catalog with a table, and a suite of three test cases: on the table, on a table that is not
there, and on none. -/
def nightlyCatalog : MemoryCatalog :=
  let suite : TestSuite := ⟨.ofNat 1, "nightly", none, none⟩
  let definition : TestDefinition := ⟨.ofNat 2, "tableRowCountToEqual", none, none, none⟩
  let testCase (id : Nat) (name link : String) : TestCase :=
    ⟨.ofNat id, name, none, none, link, Entity.reference suite, Entity.reference definition, []⟩
  let table : Table := ⟨.ofNat 3, "orders", some "svc.db.sch.orders", [], none, none, none⟩
  let catalog : MemoryCatalog := {}
  catalog.insert suite |>.insert (testCase 4 "rows" "<#E::table::svc.db.sch.orders>")
    |>.insert (testCase 5 "ghost" "<#E::table::svc.db.sch.ghosts>")
    |>.insert (testCase 6 "loose" "orders") |>.insert table

/-- A run of the suite `nightly` with an executor that has nothing to report. -/
def nightlyRun : Workflow MemoryCatalog where
  config := .ofSource "sample-data" "nightly"
  client := MemoryCatalog.client
  executor := ⟨"silent", fun _ _ => pure none⟩
  sink := none

theorem execute_accounts_nightly :
    ∃ working loaded,
      Effect.attempt nightlyRun.workingSet ⟨nightlyCatalog, []⟩ = (.ok working, loaded) ∧
      Accounts working (nightlyRun.fates working loaded) {}
        { records := ["rows"], failures := ["loose", "ghost"] } := by
  obtain ⟨final, hrun⟩ : ∃ final, (nightlyRun.execute.run.run {}).run ⟨nightlyCatalog, []⟩ =
      ((.ok (), { records := ["rows"], failures := ["loose", "ghost"] }), final) :=
    exists_run_ok (by decide +kernel) (by decide +kernel)
  obtain ⟨working, loaded, hload, haccounts, -⟩ := nightlyRun.execute_accounts hrun
  exact ⟨working, loaded, hload, haccounts⟩

end DataQuality.Workflow

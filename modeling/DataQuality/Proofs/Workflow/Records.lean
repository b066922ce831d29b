import DataQuality.Proofs.Workflow.Closing
import DataQuality.Proofs.Workflow.Delivery
import DataQuality.Proofs.Workflow.Derivation

/-!
# Records of a run

A record names the table of the context in which its test case was evaluated, and a context names
the table that the catalog gave, not the one that was asked for. In a catalog in memory these are
one: whatever it keeps stands under its own key. So every record that a run hands over is that of
a test case of its working set, with the result that the executor just gave for it, and it names
the table that the test case links to. A run with a sink hands over every result that it is given.
-/

namespace DataQuality

variable {σ α β ε : Type}

/-! ## Tables of contexts -/

namespace MemoryCatalog

variable {catalog : MemoryCatalog} {name : String}

theorem Gives.key_eq [Entity α] {entity : α} (h : catalog.Gives name entity)
    (hdecodes : ∀ value, catalog.find? (Entity.kind α) name = some value →
      DecodesAs α name value) : Entity.key entity = name := by
  cases hfind : catalog.find? (Entity.kind α) name with
  | none =>
      rw [Gives, read?, hfind] at h
      cases h
  | some value =>
      obtain ⟨stored, hstored, hkey⟩ := exists_gives_of_decodes hfind (hdecodes value hfind)
      rw [h.unique hstored]
      exact hkey

/-- A context names the table that it was built for. -/
theorem WellFormed.tableName_of_context (h : catalog.WellFormed) {connections : Bool}
    {context : TableContext} (hcontext : catalog.context connections name = .ok context) :
    context.tableName = name := by
  cases h.context_eq_iff.mp hcontext with
  | context _ hgives _ =>
      exact hgives.key_eq fun value hfind => (h.document .table name value hfind).decodes

/-- A closed catalog gives no context. -/
theorem attempt_build_closed {world : World MemoryCatalog} (hclosed : world.state.closed = true)
    (connections : Bool) (name : String) :
    ∃ e, Effect.attempt (TableContext.build client connections name) world =
      (.error e, world) := by
  have hfind : ∀ (β : Type) [Entity β] key fields,
      Effect.attempt (ContextM.ofCatalog (client.find β key fields)) world =
        (.error (.catalog .closed), world) := by
    intro β _ key fields
    have hget : Effect.attempt (client.getByName (Entity.kind β) key fields) world =
        (if world.state.closed then .error .closed
          else .ok (world.state.find? (Entity.kind β) key), world) := rfl
    rw [hclosed] at hget
    rw [ContextM.attempt_ofCatalog, CatalogClient.find, Effect.attempt_bind_error hget]
    rfl
  cases connections with
  | false => exact ⟨_, Effect.attempt_bind_error (hfind Table name TableContext.tableFields) _⟩
  | true =>
      have hconnection : ∃ e, Effect.attempt (TableContext.serviceConnection client name) world =
          (.error e, world) := by
        unfold TableContext.serviceConnection
        cases FullyQualifiedName.service? name with
        | none => exact ⟨_, rfl⟩
        | some service =>
            exact ⟨_, Effect.attempt_bind_error (hfind DatabaseService service _) _⟩
      obtain ⟨e, hconnection⟩ := hconnection
      exact ⟨e, Effect.attempt_bind_error (Effect.attempt_bind_error hconnection _) _⟩

theorem Reachable.tableName_of_build {world : World MemoryCatalog}
    (h : world.state.Reachable) {connections : Bool} {context : TableContext}
    (hbuild : (Effect.attempt (TableContext.build client connections name) world).1 =
      .ok context) : context.tableName = name := by
  cases hclosed : world.state.closed with
  | false =>
      rw [attempt_build hclosed] at hbuild
      exact h.wellFormed.tableName_of_context hbuild
  | true =>
      obtain ⟨e, hnone⟩ := attempt_build_closed hclosed connections name
      rw [hnone] at hbuild
      cases hbuild

/-- What can be reached stays so. -/
def reaching : Frame MemoryCatalog where
  rel catalog catalog' := catalog.Reachable → catalog'.Reachable
  refl _ h := h
  trans h h' := fun hreachable => h' (h hreachable)

end MemoryCatalog

/-! ## Calls that report -/

/-- A record comes after given calls, the last of which gave its result for a test case: it has
the key of the test case and the table of its link, which is also that of the context. -/
structure ResultRecord.StemsFrom (record : ResultRecord) (testCase : TestCase)
    (before : List Event) : Prop where
  evaluated : ∃ earlier context,
    before = earlier ++ [.evaluated context testCase (.ok (some record.result))] ∧
      context.tableName = record.table
  testCase_eq : record.testCase = testCase.key
  table_eq : EntityLink.tableOf? testCase.entityLink = some record.table

theorem ResultRecord.StemsFrom.append {record : ResultRecord} {testCase : TestCase}
    {before : List Event} (h : record.StemsFrom testCase before) (calls : List Event) :
    record.StemsFrom testCase (calls ++ before) := by
  obtain ⟨earlier, context, rfl, hcontext⟩ := h.evaluated
  exact ⟨⟨calls ++ earlier, context, (List.append_assoc _ _ _).symm, hcontext⟩, h.testCase_eq,
    h.table_eq⟩

namespace Event

/-- Whether a call gave a result or handed one over. -/
def bearsResult : Event → Bool
  | .evaluated _ _ (.ok (some _)) => true
  | .written _ _ => true
  | _ => false

/-- Calls that hand over records of given test cases only, each right after the executor gave the
result in a context of the table that the test case links to. Results are handed over if there is
a sink. -/
inductive Reporting (sinks : Bool) (testCases : List TestCase) : List Event → Prop where
  | done : Reporting sinks testCases []
  | other {event : Event} {calls : List Event} : event.bearsResult = false →
      Reporting sinks testCases calls → Reporting sinks testCases (event :: calls)
  | kept {context : TableContext} {testCase : TestCase} {result : TestCaseResult}
      {calls : List Event} : sinks = false → Reporting sinks testCases calls →
      Reporting sinks testCases (.evaluated context testCase (.ok (some result)) :: calls)
  | record {context : TableContext} {testCase : TestCase} {result : TestCaseResult}
      {answer : Except SinkError Unit} {calls : List Event} : testCase ∈ testCases →
      EntityLink.tableOf? testCase.entityLink = some context.tableName →
      Reporting sinks testCases calls →
      Reporting sinks testCases
        (.evaluated context testCase (.ok (some result)) ::
          .written ⟨testCase.key, context.tableName, result⟩ answer :: calls)

variable {sinks : Bool} {testCases : List TestCase} {calls others before after : List Event}

theorem Reporting.append (h : Reporting sinks testCases calls)
    (hothers : Reporting sinks testCases others) :
    Reporting sinks testCases (calls ++ others) := by
  induction h with
  | done => exact hothers
  | other hevent _ ih => exact .other hevent ih
  | kept hnone _ ih => exact .kept hnone ih
  | record hmem htable _ ih => exact .record hmem htable ih

/-- Every record that is handed over stems from one of the test cases. -/
theorem Reporting.stemsFrom (h : Reporting sinks testCases calls) {record : ResultRecord}
    {answer : Except SinkError Unit} (hcalls : calls = before ++ .written record answer :: after) :
    ∃ testCase ∈ testCases, record.StemsFrom testCase before := by
  induction h generalizing before with
  | done => exact absurd hcalls (by simp)
  | @other event calls hevent _ ih =>
      cases before with
      | nil =>
          cases hcalls
          cases hevent
      | cons first before =>
          obtain ⟨testCase, hmem, hstems⟩ := ih (List.cons.inj hcalls).2
          exact ⟨testCase, hmem, hstems.append [first]⟩
  | kept _ _ ih =>
      cases before with
      | nil => cases hcalls
      | cons first before =>
          obtain ⟨testCase, hmem, hstems⟩ := ih (List.cons.inj hcalls).2
          exact ⟨testCase, hmem, hstems.append [first]⟩
  | @record context testCase result written calls hmem htable _ ih =>
      -- the record is that of this pair of calls, or it comes behind both
      match before with
      | [] => cases hcalls
      | [_] =>
          cases hcalls
          exact ⟨testCase, hmem, ⟨[], context, rfl, rfl⟩, rfl, htable⟩
      | first :: second :: before =>
          obtain ⟨other, hother, hstems⟩ := ih (List.cons.inj (List.cons.inj hcalls).2).2
          exact ⟨other, hother, hstems.append [first, second]⟩

/-- Where there is a sink, a result is handed over at once. -/
theorem Reporting.exists_written (h : Reporting sinks testCases calls) (hsinks : sinks = true)
    {context : TableContext} {testCase : TestCase} {result : TestCaseResult}
    (hcalls : calls = before ++ .evaluated context testCase (.ok (some result)) :: after) :
    ∃ answer rest,
      after = .written ⟨testCase.key, context.tableName, result⟩ answer :: rest := by
  induction h generalizing before with
  | done => exact absurd hcalls (by simp)
  | other hevent _ ih =>
      cases before with
      | nil =>
          cases hcalls
          cases hevent
      | cons first before => exact ih (List.cons.inj hcalls).2
  | kept hnone _ _ =>
      rw [hnone] at hsinks
      cases hsinks
  | record _ _ _ ih =>
      match before with
      | [] =>
          cases hcalls
          exact ⟨_, _, rfl⟩
      | [_] => cases hcalls
      | first :: second :: before => exact ih (List.cons.inj (List.cons.inj hcalls).2).2

/-! ## Actions that report -/

/-- From a reachable catalog, an action on a traced world does what another does on the plain
world; the catalog is reachable again, and the calls that are added report. -/
def Reports (part : Part σ MemoryCatalog) (sinks : Bool) (testCases : List TestCase)
    (traced : Effect (σ × List Event) α) (plain : Effect σ α) : Prop :=
  ∀ (world : World σ) (trace : List Event), (part.get world.state).Reachable → ∃ calls,
    traced.run (world.withTrace trace) =
      ((plain.run world).1, (plain.run world).2.withTrace (trace ++ calls)) ∧
    (part.get (plain.run world).2.state).Reachable ∧ Reporting sinks testCases calls

variable {part : Part σ MemoryCatalog}

/-- An action that calls nothing and leaves the state alone. -/
theorem Reports.silent {traced : Effect (σ × List Event) α} {plain : Effect σ α}
    (htraced : ∀ (world : World σ) trace, traced.run (world.withTrace trace) =
      ((plain.run world).1, (plain.run world).2.withTrace trace))
    (hplain : ∀ world, (plain.run world).2.state = world.state) :
    Reports part sinks testCases traced plain := by
  intro world trace hreachable
  refine ⟨[], ?_, ?_, .done⟩
  · rw [List.append_nil]
    exact htraced world trace
  · rw [hplain]
    exact hreachable

/-- What follows an action has to report only on the answers that this gives where the catalog is
reachable. -/
theorem Reports.bind {traced : Effect (σ × List Event) α} {plain : Effect σ α}
    {tracedNext : α → Effect (σ × List Event) β} {next : α → Effect σ β}
    (h : Reports part sinks testCases traced plain)
    (hnext : ∀ world : World σ, (part.get world.state).Reachable →
      Reports part sinks testCases (tracedNext (plain.run world).1) (next (plain.run world).1)) :
    Reports part sinks testCases (traced >>= tracedNext) (plain >>= next) := by
  intro world trace hreachable
  obtain ⟨calls, hfirst, hmiddle, hcalls⟩ := h world trace hreachable
  obtain ⟨others, hrest, hfinal, hothers⟩ := hnext world hreachable _ (trace ++ calls) hmiddle
  refine ⟨calls ++ others, ?_, hfinal, hcalls.append hothers⟩
  rw [Effect.run_bind, Effect.run_bind, hfirst, hrest, List.append_assoc]

/-- Runs with a trace report. -/
def reporting (part : Part σ MemoryCatalog) (sinks : Bool) (testCases : List TestCase) :
    Simulation (σ × List Event) σ where
  rel := Reports part sinks testCases
  pure _ := .silent (fun _ _ => rfl) fun _ => rfl
  log _ _ := .silent (fun _ _ => rfl) fun _ => rfl
  bind h hnext := h.bind fun _ _ => hnext _

/-- A call that neither gives a result nor hands one over. -/
theorem reports_noting {event : Except ε α → Event}
    (hevent : ∀ answer, (event answer).bearsResult = false) {action : ExceptT ε (Effect σ) α}
    (h : (MemoryCatalog.reaching.within part).Tries action) :
    (reporting part sinks testCases).Tries (noting event action) action :=
  fun world _ hreachable => ⟨_, rfl, h world hreachable, .other (hevent _) .done⟩

/-- What an operation does to a reachable catalog keeps it reachable. -/
theorem reports_call {event : Except CatalogError α → Event}
    (hevent : ∀ answer, (event answer).bearsResult = false) {call : CatalogM MemoryCatalog α}
    (operation : MemoryCatalog.Operation)
    (hcall : ∀ world, (Effect.attempt call world).2 = MemoryCatalog.perform world operation) :
    (reporting part sinks testCases).Tries (noting event (part.liftExcept call))
      (part.liftExcept call) := by
  have hkept : MemoryCatalog.reaching.Tries call := by
    intro world hreachable
    rw [hcall]
    exact MemoryCatalog.reachable_perform hreachable operation
  exact reports_noting hevent (hkept.liftExcept part)

theorem asks_memory (part : Part σ MemoryCatalog) (sinks : Bool) (testCases : List TestCase) :
    (reporting part sinks testCases).Asks (MemoryCatalog.client.lift part).traced
      (MemoryCatalog.client.lift part) where
  getByName kind name fields :=
    reports_call (fun _ => rfl) (.getByName kind name fields) fun _ => rfl
  listEntities kind fields filter :=
    reports_call (fun _ => rfl) (.listEntities kind fields filter) fun _ => rfl
  createOrUpdate request :=
    reports_call (fun _ => rfl) (.createOrUpdate request) fun _ => rfl
  retrieveConnection service kind :=
    reports_call (fun _ => rfl) (.retrieveConnection service kind) fun _ => rfl
  addResult name result := reports_call (fun _ => rfl) (.addResult name result) fun _ => rfl

end Event

namespace Workflow

open Event MemoryCatalog

/-- A run asks a catalog in memory that is a part of the world, and what evaluates test cases
keeps that catalog one that can be reached. -/
structure Operates (part : Part σ MemoryCatalog) (workflow : Workflow σ) : Prop where
  client_eq : workflow.client = MemoryCatalog.client.lift part
  executor : ∀ context testCase,
    (reaching.within part).Tries (workflow.executor.run context testCase)
  sink : ∀ sink, workflow.sink = some sink → ∀ record,
    (reaching.within part).Tries (sink.write record)

variable {part : Part σ MemoryCatalog} {workflow : Workflow σ} {working : List TestCase}

theorem Operates.consults (h : workflow.Operates part) (working : List TestCase) :
    Consults (reporting part workflow.sink.isSome working) workflow.traced workflow where
  config_eq := rfl
  client := by
    change (reporting part workflow.sink.isSome working).Asks workflow.client.traced workflow.client
    rw [h.client_eq]
    exact asks_memory part _ working

theorem Operates.evaluatesWithin (h : workflow.Operates part) :
    workflow.EvaluatesWithin (reaching.within part) where
  context connections table := by
    rw [h.client_eq, TableContext.build_lift]
    exact (tries_build reaching connections table).liftExcept part
  executor := h.executor
  sink := h.sink

theorem Operates.tableName_of_build (h : workflow.Operates part) {world : World σ}
    (hreachable : (part.get world.state).Reachable) {connections : Bool} {name : String}
    {context : TableContext}
    (hbuild : (Effect.attempt (TableContext.build workflow.client connections name) world).1 =
      .ok context) : context.tableName = name := by
  rw [h.client_eq, TableContext.build_lift] at hbuild
  have hreachable' : (part.world world).state.Reachable := hreachable
  exact hreachable'.tableName_of_build hbuild

/-! ## What each action reports -/

/-- Handing over a record is one call if there is a sink, and none otherwise. -/
theorem exists_forward_traced (workflow : Workflow σ) (record : ResultRecord) (world : World σ)
    (trace : List Event) :
    ∃ calls,
      (workflow.traced.forward record).run (world.withTrace trace) =
        ((), ((workflow.forward record).run world).2.withTrace (trace ++ calls)) ∧
      (workflow.sink.isSome = false ∧ calls = [] ∨
        ∃ answer, calls = [.written record answer]) := by
  cases hsink : workflow.sink with
  | none =>
      refine ⟨[], ?_, .inl ⟨rfl, rfl⟩⟩
      simp only [forward, traced, hsink, Option.map_none, List.append_nil]
      rfl
  | some sink =>
      have hwritten := attempt_noting (.written record) (sink.write record) world trace
      cases hattempt : Effect.attempt (sink.write record) world with
      | mk answer next =>
          rw [hattempt] at hwritten
          have hrun : (sink.write record).run.run world = (answer, next) := hattempt
          have htraced : (sink.traced.write record).run.run (world.withTrace trace) =
              (answer, next.withTrace (trace ++ [.written record answer])) := hwritten
          refine ⟨[.written record answer], ?_, .inr ⟨answer, rfl⟩⟩
          simp only [forward, traced, hsink, Option.map_some, Effect.run_bind, hrun, htraced]
          cases answer with
          | ok _ => rfl
          | error e => rfl

/-- A test case whose link names the table of its context reports. -/
theorem Operates.runTestCase (h : workflow.Operates part) {context : TableContext}
    {testCase : TestCase} (hmem : testCase ∈ working)
    (htable : EntityLink.tableOf? testCase.entityLink = some context.tableName) :
    Agrees (reporting part workflow.sink.isSome working)
      (workflow.traced.runTestCase context testCase) (workflow.runTestCase context testCase) := by
  intro status world trace hreachable
  have hkept : (part.get
      (((workflow.runTestCase context testCase).run status).run world).2.state).Reachable :=
    h.evaluatesWithin.evaluates.runTestCase context testCase status world hreachable
  have hnoted := attempt_noting (.evaluated context testCase)
    (workflow.executor.run context testCase) world trace
  cases hattempt : Effect.attempt (workflow.executor.run context testCase) world with
  | mk answer next =>
      rw [hattempt] at hnoted
      have hrun : (workflow.executor.run context testCase).run.run world = (answer, next) :=
        hattempt
      have htraced : (workflow.traced.executor.run context testCase).run.run
          (world.withTrace trace) =
            (answer, next.withTrace (trace ++ [.evaluated context testCase answer])) := hnoted
      simp only [Workflow.runTestCase, StatusM.run_bind, StatusM.run_lift, hrun, htraced]
        at hkept ⊢
      cases answer with
      | error e => exact ⟨_, rfl, hkept, .other rfl .done⟩
      | ok result =>
          cases result with
          | none => exact ⟨_, rfl, hkept, .other rfl .done⟩
          | some result =>
              -- what is handed over reports only together with the call before it
              obtain ⟨calls, hforward, hcalls⟩ := workflow.exists_forward_traced
                ⟨testCase.key, context.tableName, result⟩ next
                (trace ++ [.evaluated context testCase (.ok (some result))])
              refine ⟨.evaluated context testCase (.ok (some result)) :: calls, ?_, hkept, ?_⟩
              · simp only [StatusM.run_bind, StatusM.run_lift, hforward, List.append_assoc]
                rfl
              · rcases hcalls with ⟨hnone, rfl⟩ | ⟨answer, rfl⟩
                · exact .kept hnone .done
                · exact .record hmem htable .done

theorem Operates.runTestCases (h : workflow.Operates part) {context : TableContext}
    {testCases : List TestCase} (hsubset : testCases ⊆ working)
    (htable : ∀ testCase ∈ testCases,
      EntityLink.tableOf? testCase.entityLink = some context.tableName) :
    Agrees (reporting part workflow.sink.isSome working)
      (workflow.traced.runTestCases context testCases)
      (workflow.runTestCases context testCases) := by
  induction testCases with
  | nil => exact agrees_pure _ ()
  | cons testCase rest ih =>
      have hfirst := h.runTestCase (hsubset List.mem_cons_self) (htable testCase List.mem_cons_self)
      exact hfirst.bind fun _ => ih (List.subset_of_cons_subset hsubset) fun other hother =>
        htable other (List.mem_cons_of_mem _ hother)

theorem agrees_lift_bind {sinks : Bool} {tracedEffect : Effect (σ × List Event) α}
    {effect : Effect σ α} {tracedNext : α → StatusM (σ × List Event) β} {next : α → StatusM σ β}
    (h : Reports part sinks working tracedEffect effect)
    (hnext : ∀ world : World σ, (part.get world.state).Reachable →
      Agrees (reporting part sinks working) (tracedNext (effect.run world).1)
        (next (effect.run world).1)) :
    Agrees (reporting part sinks working) (StateT.lift tracedEffect >>= tracedNext)
      (StateT.lift effect >>= next) := by
  intro status
  have hbind : Reports part sinks working (tracedEffect >>= fun a => (tracedNext a).run status)
      (effect >>= fun a => (next a).run status) :=
    h.bind fun world hreachable => hnext world hreachable status
  exact hbind

/-- The context of a table, if there is one, is that of the table itself, where the catalog is
reachable. -/
theorem Operates.runTable (h : workflow.Operates part) {table : String}
    {testCases : List TestCase} (hsubset : testCases ⊆ working)
    (htable : ∀ testCase ∈ testCases, EntityLink.tableOf? testCase.entityLink = some table) :
    Agrees (reporting part workflow.sink.isSome working) (workflow.traced.runTable table testCases)
      (workflow.runTable table testCases) := by
  have hbuild := (h.consults working).client.build (!workflow.config.isSampleSource) table
  refine agrees_lift_bind hbuild fun world hreachable => ?_
  generalize hanswer : ((TableContext.build workflow.client (!workflow.config.isSampleSource)
    table).run.run world).1 = answer
  cases answer with
  | ok context =>
      -- the one place that needs an answer of a reachable catalog
      have hname := h.tableName_of_build hreachable hanswer
      exact h.runTestCases hsubset fun testCase hmem => hname ▸ htable testCase hmem
  | error e =>
      exact (agrees_lift ((reporting part workflow.sink.isSome working).log _ _)).bind fun _ =>
        agrees_failAll _ testCases

theorem Operates.runTables (h : workflow.Operates part) {groups : List (String × List TestCase)}
    (hsubset : ∀ group ∈ groups, group.2 ⊆ working) (hgrouped : Grouped groups) :
    Agrees (reporting part workflow.sink.isSome working) (workflow.traced.runTables groups)
      (workflow.runTables groups) := by
  induction groups with
  | nil => exact agrees_pure _ ()
  | cons group rest ih =>
      have hfirst := h.runTable (hsubset group List.mem_cons_self)
        (hgrouped group List.mem_cons_self)
      exact hfirst.bind fun _ =>
        ih (fun other hother => hsubset other (List.mem_cons_of_mem _ hother))
          fun other hother => hgrouped other (List.mem_cons_of_mem _ hother)

/-- The run of a working set reports on it. -/
theorem Operates.runAll (h : workflow.Operates part) (working : List TestCase) :
    Agrees (reporting part workflow.sink.isSome working) (workflow.traced.runAll working)
      (workflow.runAll working) := by
  have hsubset : ∀ group ∈ (TableGroups.ofTestCases working).tables, group.2 ⊆ working := by
    rintro ⟨table, group⟩ hgroup testCase hmem
    rw [(TableGroups.mem_tables hgroup).1] at hmem
    exact (TableGroups.mem_targeting.mp hmem).1
  exact (agrees_lift ((reporting part workflow.sink.isSome working).log _ _)).bind fun _ =>
    (agrees_failUnlinked _ _).bind fun _ => h.runTables hsubset (grouped_tables working)

/-- An execution reports on the working set that it finds, and on nothing if it finds none. -/
theorem Operates.execute (h : workflow.Operates part) {world loaded : World σ}
    (hreachable : (part.get world.state).Reachable) {answer : Except CatalogError (List TestCase)}
    (hload : Effect.attempt workflow.workingSet world = (answer, loaded)) (status : Status) :
    ∃ calls,
      (workflow.traced.execute.run.run status).run (world.withTrace []) =
        (((workflow.execute.run.run status).run world).1,
          ((workflow.execute.run.run status).run world).2.withTrace calls) ∧
      Reporting workflow.sink.isSome (answer.toOption.getD []) calls := by
  obtain ⟨calls, htraced, hloaded, hcalls⟩ :=
    (h.consults (answer.toOption.getD [])).workingSet world [] hreachable
  have hrun : workflow.workingSet.run.run world = (answer, loaded) := hload
  rw [hrun] at htraced hloaded
  have hloadTraced : Effect.attempt workflow.traced.workingSet (world.withTrace []) =
      (answer, loaded.withTrace calls) := htraced
  rw [run_execute, run_execute, hload, hloadTraced]
  cases answer with
  | error e => exact ⟨calls, rfl, hcalls⟩
  | ok working =>
      obtain ⟨others, hrest, -, hothers⟩ := h.runAll working status loaded calls hloaded
      refine ⟨calls ++ others, ?_, hcalls.append hothers⟩
      simp only [hrest]

/-- On a reachable catalog in memory, open or closed, a context names the table that it was built
for. So in an execution, with an executor and a sink that keep the catalog reachable, every record
that is handed over is that of a test case of the working set: it has the key of the test case, the
result that the executor has just given for it, and the table that its link names. If there is a
sink, every result is handed over so. -/
theorem execute_names_tables (h : workflow.Operates part) {world : World σ}
    (hreachable : (part.get world.state).Reachable) :
    (∀ connections name context next,
      Effect.attempt (TableContext.build workflow.client connections name) world =
        (.ok context, next) → context.tableName = name) ∧
    ∀ status, ∃ calls,
      (workflow.traced.execute.run.run status).run (world.withTrace []) =
        (((workflow.execute.run.run status).run world).1,
          ((workflow.execute.run.run status).run world).2.withTrace calls) ∧
      (∀ before record answer after, calls = before ++ .written record answer :: after →
        ∃ working loaded testCase,
          Effect.attempt workflow.workingSet world = (.ok working, loaded) ∧
          testCase ∈ working ∧ record.StemsFrom testCase before) ∧
      (workflow.sink.isSome → ∀ before context testCase result after,
        calls = before ++ .evaluated context testCase (.ok (some result)) :: after →
          ∃ answer rest,
            after = .written ⟨testCase.key, context.tableName, result⟩ answer :: rest) := by
  refine ⟨fun connections name context next hbuild => ?_, fun status => ?_⟩
  · exact h.tableName_of_build hreachable (congrArg Prod.fst hbuild)
  · rcases hload : Effect.attempt workflow.workingSet world with ⟨answer, loaded⟩
    obtain ⟨calls, hrun, hreporting⟩ := h.execute hreachable hload status
    refine ⟨calls, hrun, ?_, ?_⟩
    · intro before record written after hcalls
      obtain ⟨testCase, hmem, hstems⟩ := hreporting.stemsFrom hcalls
      cases answer with
      | error e => exact absurd hmem List.not_mem_nil
      | ok working => exact ⟨working, loaded, testCase, rfl, hmem, hstems⟩
    · intro hsink before context testCase result after hcalls
      exact hreporting.exists_written hsink hcalls

/-! ## Writing back -/

/-- A run that writes its results back does so by an operation of the catalog. -/
theorem operates_writingBack {τ : Type} (config : WorkflowConfig)
    {executor : TestExecutor (WithBooks τ)}
    (hexecutor : ∀ context testCase, WithBooks.aside.Tries (executor.run context testCase)) :
    (writingBack config executor).Operates Part.first where
  client_eq := rfl
  executor context testCase world hreachable := by
    change MemoryCatalog.Reachable (Effect.attempt (executor.run context testCase) world).2.state.1
    rw [(hexecutor context testCase world).1]
    exact hreachable
  sink := by
    rintro _ hsink record world hreachable
    cases hsink
    have hwritten : (Effect.attempt (backSink.write record) world).2.state.1 =
        (world.state.1.addResult record.testCase record.result).2 := by
      rw [attempt_write]
      cases world.state.1.addResult record.testCase record.result with
      | mk answer catalog =>
          cases answer with
          | ok _ => rfl
          | error e => rfl
    change MemoryCatalog.Reachable (Effect.attempt (backSink.write record) world).2.state.1
    rw [hwritten]
    exact .addResult record.testCase record.result hreachable

/-- A table without a fully qualified name, and a suite with one test case on it, whose link holds a
bracket more. -/
def bareCatalog : MemoryCatalog :=
  let suite : TestSuite := ⟨.ofNat 1, "nightly", none, none⟩
  let definition : TestDefinition := ⟨.ofNat 2, "tableRowCountToEqual", none, none, none⟩
  let testCase : TestCase :=
    ⟨.ofNat 3, "rows", some "orders.rows", none, "<#E::table::ord>ers>", Entity.reference suite,
      Entity.reference definition, []⟩
  let table : Table := ⟨.ofNat 4, "orders", none, [], none, none, none⟩
  let catalog : MemoryCatalog := {}
  catalog.insert suite |>.insert testCase |>.insert table

/-- A run of that suite that writes its results back, with an executor that gives results. -/
def bareRun : Workflow (WithBooks Unit) :=
  writingBack nightlyRun.config steadyExecutor

def bareWorld : World (WithBooks Unit) := ⟨(bareCatalog, {}, ()), []⟩

/-- The context and the record of that test case name the table by its bare name. -/
theorem execute_names_tables_bare :
    (∃ context next, Effect.attempt (TableContext.build bareRun.client false "orders") bareWorld =
      (.ok context, next) ∧ context.tableName = "orders") ∧
    ∃ (before after : List Event) (record : ResultRecord) (answer : Except SinkError Unit)
      (testCase : TestCase),
      ((bareRun.traced.execute.run.run {}).run (bareWorld.withTrace [])).2.state.2 =
        before ++ .written record answer :: after ∧
      record.testCase = "orders.rows" ∧ record.table = "orders" ∧
      record.StemsFrom testCase before := by
  have hrun : bareRun.Operates Part.first :=
    operates_writingBack nightlyRun.config fun _ _ world => WithBooks.aside.refl world.state
  have hreachable : bareCatalog.Reachable :=
    .insert (.insert (.insert (.empty _) (.testSuite _)) (.testCase _)) (.table _)
  obtain ⟨hcontexts, hruns⟩ := @execute_names_tables _ _ _ hrun bareWorld hreachable
  have hbuilt : (Effect.attempt (TableContext.build bareRun.client false "orders")
      bareWorld).1.toOption.isSome := by
    decide +kernel
  obtain ⟨context, hcontext⟩ := Option.isSome_iff_exists.mp hbuilt
  obtain ⟨next, hcontext⟩ := exists_attempt_ok hcontext
  obtain ⟨calls, htraced, hrecords, -⟩ := hruns {}
  have hcalls : ((bareRun.traced.execute.run.run {}).run (bareWorld.withTrace [])).2.state.2 =
      calls := by
    rw [htraced]
    rfl
  -- the texts are compared, since calls as a whole cannot be decided on
  have hwritten : (((bareRun.traced.execute.run.run {}).run
      (bareWorld.withTrace [])).2.state.2.any fun
        | .written record _ => record.testCase == "orders.rows" && record.table == "orders"
        | _ => false) = true := by
    decide +kernel
  obtain ⟨event, hmem, hevent⟩ := List.any_eq_true.mp hwritten
  obtain ⟨before, after, hsplit⟩ := List.append_of_mem hmem
  cases event with
  | written record answer =>
      obtain ⟨hkey, htable⟩ := Bool.and_eq_true_iff.mp hevent
      obtain ⟨-, -, testCase, -, -, hstems⟩ :=
        hrecords before record answer after (hcalls.symm.trans hsplit)
      exact ⟨⟨context, next, hcontext, hcontexts false "orders" context next hcontext⟩,
        before, after, record, answer, testCase, hsplit, beq_iff_eq.mp hkey, beq_iff_eq.mp htable,
        hstems⟩
  | _ => cases hevent

end Workflow

end DataQuality

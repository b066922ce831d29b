import DataQuality.Proofs.Sink.Books
import DataQuality.Proofs.Workflow.Closing
import DataQuality.Workflow.Create

/-!
# The exit code of a run

A report fails on behalf of the first of its stages that is at fault, and its exit code says
whether there is one. After a run that succeeds a stage is at fault exactly if some test case
failed or had its result rejected by the sink; warnings are never entered, and verdicts do not
count.
-/

namespace DataQuality

/-! ## Reports -/

namespace Report

variable {report : Report} {strict : Bool} {stage : String × Status}

/-- A stage is the first one that has keys of some sort. -/
def FirstWith (report : Report) (keys : Status → List String) (stage : String × Status) : Prop :=
  ∃ before later, report.stages = before ++ stage :: later ∧ keys stage.2 ≠ [] ∧
    ∀ other ∈ before, keys other.2 = []

/-- The stage on whose behalf a report fails: the first one with failures or, only if no stage has
failures and the report is strict, the first one with warnings. -/
def AtFault (report : Report) (strict : Bool) (stage : String × Status) : Prop :=
  report.FirstWith Status.failures stage ∨
    (∀ other ∈ report.stages, other.2.failures = []) ∧ strict = true ∧
      report.FirstWith Status.warnings stage

theorem find?_eq_some_iff_firstWith {keys : Status → List String} :
    (report.stages.find? fun other => !(keys other.2).isEmpty) = some stage ↔
      report.FirstWith keys stage := by
  simp only [List.find?_eq_some_iff_append, FirstWith, Bool.not_eq_true', Bool.not_not,
    List.isEmpty_eq_false_iff, List.isEmpty_iff]
  constructor
  · rintro ⟨hkeys, before, later, hstages, hbefore⟩
    exact ⟨before, later, hstages, hkeys, hbefore⟩
  · rintro ⟨before, later, hstages, hkeys, hbefore⟩
    exact ⟨hkeys, before, later, hstages, hbefore⟩

/-- There is a first stage that has keys if there is any. -/
theorem exists_firstWith_iff {keys : Status → List String} :
    (∃ stage, report.FirstWith keys stage) ↔ ∃ other ∈ report.stages, keys other.2 ≠ [] := by
  simp only [← find?_eq_some_iff_firstWith, ← Option.isSome_iff_exists, List.find?_isSome,
    Bool.not_eq_true', List.isEmpty_eq_false_iff]

theorem culprit?_eq_some_iff :
    report.culprit? strict = some stage ↔ report.AtFault strict stage := by
  have hfailures : report.FirstWith Status.failures stage ↔
      (report.stages.find? fun other => other.2.hasFailures) = some stage :=
    find?_eq_some_iff_firstWith.symm
  have hwarnings : report.FirstWith Status.warnings stage ↔
      (report.stages.find? fun other => other.2.hasWarnings) = some stage :=
    find?_eq_some_iff_firstWith.symm
  rw [AtFault, hfailures, hwarnings, culprit?]
  cases hfailing : report.stages.find? fun other => other.2.hasFailures with
  | some failing =>
      have hkeys : failing.2.failures ≠ [] := by
        simpa [Status.hasFailures] using List.find?_some hfailing
      have hmem := List.mem_of_find?_eq_some hfailing
      rw [or_iff_left fun hwarned => hkeys (hwarned.1 failing hmem)]
  | none =>
      have hall : ∀ other ∈ report.stages, other.2.failures = [] := by
        simpa [Status.hasFailures] using hfailing
      rw [or_iff_right (by simp), and_iff_right hall]
      cases strict with
      | false => simp
      | true => simp

theorem raise_eq_error_iff {e : WorkflowError} :
    report.raise strict = .error e ↔
      ∃ stage, report.AtFault strict stage ∧
        e = .execution stage.1 stage.2.failures.length stage.2.warnings.length := by
  simp only [← culprit?_eq_some_iff]
  unfold raise
  cases report.culprit? strict with
  | none => simp
  | some stage => simp [eq_comm]

theorem failed_iff : report.failed strict = true ↔ ∃ stage, report.AtFault strict stage := by
  have hfailed : report.failed strict = true ↔
      (∃ other ∈ report.stages, other.2.failures ≠ []) ∨
        strict = true ∧ ∃ other ∈ report.stages, other.2.warnings ≠ [] := by
    simp only [failed, List.any_eq_true, Status.isFailed, Status.hasFailures, Status.hasWarnings,
      Bool.or_eq_true, Bool.and_eq_true, Bool.not_eq_true', List.isEmpty_eq_false_iff]
    constructor
    · rintro ⟨other, hmem, hfailures | ⟨hstrict, hwarnings⟩⟩
      · exact .inl ⟨other, hmem, hfailures⟩
      · exact .inr ⟨hstrict, other, hmem, hwarnings⟩
    · rintro (⟨other, hmem, hfailures⟩ | ⟨hstrict, other, hmem, hwarnings⟩)
      · exact ⟨other, hmem, .inl hfailures⟩
      · exact ⟨other, hmem, .inr ⟨hstrict, hwarnings⟩⟩
  simp only [hfailed, AtFault, exists_or, exists_and_left, exists_firstWith_iff]
  by_cases hany : ∃ other ∈ report.stages, other.2.failures ≠ []
  · exact iff_of_true (.inl hany) (.inl hany)
  · have hnone : ∀ other ∈ report.stages, other.2.failures = [] := by
      intro other hmem
      by_contra hfailures
      exact hany ⟨other, hmem, hfailures⟩
    rw [or_iff_right hany, or_iff_right hany, and_iff_right hnone]

theorem exitCode_eq_one_iff : report.exitCode strict = 1 ↔ report.failed strict = true := by
  unfold exitCode
  split
  next h => exact iff_of_true rfl h
  next h => exact iff_of_false (by decide) h

/-- An exit code is 0 or 1. -/
theorem exitCode_congr {other : Report} {strict' : Bool}
    (h : report.exitCode strict = 1 ↔ other.exitCode strict' = 1) :
    report.exitCode strict = other.exitCode strict' := by
  rw [exitCode_eq_one_iff, exitCode_eq_one_iff, ← Bool.eq_iff_iff] at h
  rw [exitCode, exitCode, h]

/-- Without warnings it makes no difference whether they count. -/
theorem failed_of_no_warnings (h : ∀ other ∈ report.stages, other.2.warnings = []) :
    report.failed strict = true ↔ ∃ other ∈ report.stages, other.2.failures ≠ [] := by
  rw [failed_iff, ← exists_firstWith_iff]
  constructor
  · rintro ⟨stage, hfailures | ⟨-, -, before, later, hstages, hwarnings, -⟩⟩
    · exact ⟨stage, hfailures⟩
    · exact absurd (h stage (by simp [hstages])) hwarnings
  · rintro ⟨stage, hfailures⟩
    exact ⟨stage, .inl hfailures⟩

end Report

/-! ## What spoils a run -/

/-- A test case spoils a run if its link names no table, its table has no context, the executor
fails on it, or the sink rejects its result. -/
def Settlement.Spoils (settlement : Settlement) : Prop :=
  settlement.fate.outcome = .unlinked ∨
    (∃ cause, settlement.fate.outcome = .withoutContext cause) ∨
    (∃ context e, settlement.fate.outcome = .evaluated context (.error e)) ∨
    ∃ e, settlement.receipt = some (.error e)

theorem Settlement.spoils_iff {settlement : Settlement} :
    settlement.Spoils ↔ settlement.fate.outcome.fails = true ∨ settlement.rejected = true := by
  rw [Spoils, rejected_iff]
  cases settlement.fate.outcome with
  | unlinked => simp [Outcome.fails]
  | withoutContext cause => simp [Outcome.fails]
  | evaluated context answer =>
      cases answer with
      | error e => simp [Outcome.fails]
      | ok result => simp [Outcome.fails]

namespace Status

/-- A status that was kept by fates has failures if one of them is a failure. -/
theorem failures_enter_ne_nil {fates : List Fate} :
    (enter {} fates).failures ≠ [] ↔ ∃ fate ∈ fates, fate.outcome.fails = true := by
  simp [enter, Fate.failedKeys]

/-- Books that were kept by answers have failures if one of them is a rejection. -/
theorem failures_receive_ne_nil {settlements : List Settlement} :
    (receive {} settlements).failures ≠ [] ↔
      ∃ settlement ∈ settlements, settlement.rejected = true := by
  simp [receive]

end Status

/-! ## What a run is made of -/

variable {σ κ α ε : Type}

/-- An action whose errors are renamed answers as it does itself when it does not fail. -/
theorem Effect.attempt_of_adapt {ε' : Type} {action : ExceptT ε (Effect σ) α} {f : ε → ε'}
    {world final : World σ} {a : α}
    (h : Effect.attempt (ExceptT.adapt f action) world = (.ok a, final)) :
    Effect.attempt action world = (.ok a, final) := by
  have hadapt : Effect.attempt (ExceptT.adapt f action) world =
      ((Effect.attempt action world).1.mapError f, (Effect.attempt action world).2) := rfl
  rw [hadapt] at h
  cases hattempt : Effect.attempt action world with
  | mk answer next =>
      rw [hattempt] at h
      cases answer with
      | ok b =>
          cases h
          rfl
      | error e => cases h

/-- The connection of a station lies beside its desk. -/
theorem Part.desk_aside (station : Part σ Station) (connection : Connection) (state : σ) :
    (station.comp Station.deskPart).get
        ((station.comp Station.connectionPart).set connection state) =
      (station.comp Station.deskPart).get state := by
  have hget := station.get_set (Station.connectionPart.set connection (station.get state)) state
  have hdesk := congrArg Station.desk hget
  exact hdesk

/-! ## Runs -/

namespace Workflow

open SinkDesk

variable {desk : Part σ SinkDesk} {back : CatalogClient σ}

/-- What a run works with besides its sink, and what the sink writes with, leave the books of the
sink alone. -/
structure SparesBooks (desk : Part σ SinkDesk) (back : CatalogClient σ) (workflow : Workflow σ) :
    Prop where
  client : (booksFrame (booksOn desk)).keeping.Asks workflow.client workflow.client
  close : (booksFrame (booksOn desk)).Tries workflow.client.close
  executor : ∀ context testCase,
    (booksFrame (booksOn desk)).Tries (workflow.executor.run context testCase)
  back : ∀ name result, (booksFrame (booksOn desk)).Tries (back.addResult name result)

/-- A run has no sink, or one that was built, with books that are as building it left them. -/
def Fresh (desk : Part σ SinkDesk) (back : CatalogClient σ) (workflow : Workflow σ)
    (world : World σ) : Prop :=
  ∀ sink, workflow.sink = some sink → ∃ config before built,
    Effect.attempt (Sink.build config back desk) before = (.ok sink, built) ∧
      booksOn desk world.state = booksOn desk built.state

variable {workflow : Workflow σ} {world final : World σ} {status after : Status}

/-- What is logged at the end is not part of the state. -/
theorem state_run_logStopped (stopped : Except WorkflowError Unit) (world : World σ) :
    ((logStopped stopped).run world).2.state = world.state := by
  cases stopped with
  | error e => rfl
  | ok _ => rfl

/-- A run that succeeds has executed, and then closed its sink and its client. -/
theorem exists_of_run (h : (workflow.run.run status).run world = ((.ok (), after), final)) :
    ∃ left, (workflow.execute.run.run status).run world = ((.ok (), after), left) ∧
      final.state =
        (Effect.attempt workflow.client.close (workflow.closeSink.run left).2).2.state := by
  rcases hexecuted : (workflow.execute.run.run status).run world with ⟨⟨executed, entered⟩, left⟩
  rcases hsink : workflow.closeSink.run left with ⟨sinkClosed, middle⟩
  rcases hclient : Effect.attempt workflow.client.close middle with ⟨clientClosed, closed⟩
  have hrun := run_of_execute ⟨executed, sinkClosed, clientClosed⟩ hexecuted hsink hclient
  rw [h] at hrun
  obtain ⟨hanswer, hfinal⟩ := Prod.mk.inj hrun
  obtain ⟨hanswer, rfl⟩ := Prod.mk.inj hanswer
  refine ⟨left, ?_, ?_⟩
  · cases executed with
    | ok _ => rfl
    | error e => cases hanswer
  · rw [hsink, hclient, hfinal, state_run_logStopped]

/-- An execution that succeeds finds its working set and evaluates it. -/
theorem exists_runAll_of_execute
    (h : (workflow.execute.run.run status).run world = ((.ok (), after), final)) :
    ∃ working loaded,
      Effect.attempt workflow.workingSet world = (.ok working, loaded) ∧
      after = status.enter (workflow.fates working loaded) ∧
      final = (workflow.runAll working).leaves loaded := by
  rw [run_execute] at h
  cases hload : Effect.attempt workflow.workingSet world with
  | mk answer loaded =>
      rw [hload] at h
      cases answer with
      | error e => cases h
      | ok working =>
          simp only [(workflow.runAll_keepsTo working).run_eq] at h
          cases h
          exact ⟨working, loaded, rfl, rfl, rfl⟩

namespace SparesBooks

variable (h : workflow.SparesBooks desk back)

include h

/-- Whatever sink of the desk such a run has, the books are kept. -/
theorem keepsBooks (hsink : ∀ sink, workflow.sink = some sink → Sink.BuiltOn desk back sink) :
    workflow.KeepsBooks (booksOn desk) where
  context := h.client.build _
  executor := h.executor
  write sink hsome := (hsink sink hsome).write h.back

theorem workingSet : (booksFrame (booksOn desk)).Tries workflow.workingSet :=
  Consults.workingSet ⟨rfl, h.client⟩

end SparesBooks

/-- A fresh run has a sink of the desk with empty books, if it has one. -/
theorem Fresh.builtOn (h : workflow.Fresh desk back world) {sink : Sink σ}
    (hsink : workflow.sink = some sink) :
    Sink.BuiltOn desk back sink ∧ booksOn desk world.state = {} := by
  obtain ⟨config, before, built, hbuild, hbooks⟩ := h sink hsink
  obtain ⟨hbuiltOn, hempty⟩ := Sink.builtOn_of_build hbuild
  exact ⟨hbuiltOn, hbooks.trans hempty⟩

/-- Closing the sink leaves its books alone. -/
theorem keeps_closeSink (hsink : ∀ sink, workflow.sink = some sink → Sink.BuiltOn desk back sink) :
    (booksFrame (booksOn desk)).Keeps workflow.closeSink := by
  intro world
  cases hsome : workflow.sink with
  | none =>
      rw [run_closeSink_none workflow world hsome]
      exact (booksFrame _).refl world.state
  | some sink =>
      rw [run_closeSink_some workflow world hsome]
      exact (hsink sink hsome).close world

/-- A fresh run that succeeds has its working set settled: the status has the fates, and the books
of the sink have the answers. -/
theorem SparesBooks.exists_of_run (h : workflow.SparesBooks desk back)
    (hfresh : workflow.Fresh desk back world)
    (hrun : (workflow.run.run {}).run world = ((.ok (), after), final)) :
    ∃ working loaded,
      Effect.attempt workflow.workingSet world = (.ok working, loaded) ∧
      after = Status.enter {} (workflow.fates working loaded) ∧
      ∀ sink, workflow.sink = some sink →
        sink.status final.state = Status.receive {} (workflow.settlements working loaded) := by
  have hbuilt : ∀ sink, workflow.sink = some sink → Sink.BuiltOn desk back sink :=
    fun _ hsink => (hfresh.builtOn hsink).1
  obtain ⟨left, hexecuted, hfinal⟩ := Workflow.exists_of_run hrun
  obtain ⟨working, loaded, hload, hstatus, rfl⟩ := exists_runAll_of_execute hexecuted
  refine ⟨working, loaded, hload, hstatus, fun sink hsink => ?_⟩
  -- only the evaluation of the working set writes to the books
  have hloaded : booksOn desk loaded.state = booksOn desk world.state := by
    have hkept := h.workingSet world
    rw [hload] at hkept
    exact hkept
  have hsettled := (h.keepsBooks hbuilt).settles_runAll working loaded
  have hclosed : booksOn desk final.state =
      booksOn desk ((workflow.runAll working).leaves loaded).state := by
    rw [hfinal]
    exact (h.close _).trans (keeps_closeSink hbuilt _)
  rw [(hbuilt sink hsink).status_eq, hclosed, hsettled, hloaded, (hfresh.builtOn hsink).2]

/-! ### Runs from a configuration -/

/-- A run spares the books of a sink that lies beside what its client works on, and that attaches
results with this client. -/
theorem sparesBooks_of_aside {part : Part σ κ}
    (haside : ∀ k s, desk.get (part.set k s) = desk.get s)
    {client : CatalogClient κ} (hclient : workflow.client = client.lift part)
    (hexecutor : ∀ context testCase,
      (booksFrame (booksOn desk)).Tries (workflow.executor.run context testCase)) :
    workflow.SparesBooks desk workflow.client := by
  have hlift : ∀ {ε α : Type} (action : ExceptT ε (Effect κ) α),
      (booksFrame (booksOn desk)).Tries (part.liftExcept action) :=
    fun action world => congrArg (fun state : SinkDesk => state.sink.status) (haside _ _)
  have hasks : (booksFrame (booksOn desk)).keeping.Asks (client.lift part) (client.lift part) :=
    { getByName := fun _ _ _ => hlift _
      listEntities := fun _ _ _ => hlift _
      createOrUpdate := fun _ => hlift _
      retrieveConnection := fun _ _ => hlift _
      addResult := fun _ _ => hlift _ }
  refine ⟨?_, ?_, hexecutor, ?_⟩
  · rw [hclient]
    exact hasks
  · rw [hclient]
    exact hlift client.close
  · rw [hclient]
    exact hasks.addResult

/-- Asking for the time is all that the validators do to the world. -/
theorem tries_executor {frame : Frame σ} {clock : Effect σ Int64} (h : frame.Keeps clock)
    (registry : ValidatorRegistry) (context : TableContext) (testCase : TestCase) :
    frame.Tries ((registry.executor clock).run context testCase) := by
  unfold ValidatorRegistry.executor
  dsimp only
  split
  next e _ => exact frame.tries_throw e
  next verdict _ => exact h.tries.bind fun time => frame.tries_pure (some (verdict.toResult time))

/-- The run of a configuration is fresh once it is made, and spares the books of its sink if the
clock does. -/
theorem fresh_of_create {station : Part σ Station} {clock : Effect σ Int64}
    {config : WorkflowConfig} {before : World σ}
    (hclock : (booksFrame (booksOn (station.comp Station.deskPart))).Keeps clock)
    (h : Effect.attempt (create station clock config) before = (.ok workflow, world)) :
    workflow.SparesBooks (station.comp Station.deskPart) workflow.client ∧
      workflow.Fresh (station.comp Station.deskPart) workflow.client world := by
  unfold create at h
  cases hcheck : config.check with
  | error e => rw [hcheck] at h; cases h
  | ok _ =>
      cases hsettings : RestClient.ofConfig config.catalog with
      | error cause => rw [hcheck, hsettings] at h; cases h
      | ok settings =>
          rw [hcheck, hsettings] at h
          dsimp only at h
          cases hsink : config.sink with
          | none =>
              rw [hsink] at h
              cases h
              exact ⟨sparesBooks_of_aside station.desk_aside rfl (tries_executor hclock _), nofun⟩
          | some sinkConfig =>
              rw [hsink] at h
              obtain ⟨sink, built, hbuild, hrest⟩ := Effect.exists_of_attempt_bind h
              cases hrest
              refine ⟨sparesBooks_of_aside station.desk_aside rfl (tries_executor hclock _), ?_⟩
              rintro _ ⟨⟩
              exact ⟨sinkConfig, before, built, Effect.attempt_of_adapt hbuild, rfl⟩

/-! ### The exit code -/

/-- The exit code of a fresh run that succeeds, from how its working set was settled. -/
theorem exitCode_report {settlements : List Settlement}
    (hnone : workflow.sink = none → ∀ settlement ∈ settlements, settlement.receipt = none)
    (hstatus : after = Status.enter {} (settlements.map (·.fate)))
    (hbooks : ∀ sink, workflow.sink = some sink →
      sink.status final.state = Status.receive {} settlements) (strict : Bool) :
    (workflow.report after final.state).exitCode strict = 1 ↔
      ∃ settlement ∈ settlements, settlement.Spoils := by
  have hprocessor : after.failures ≠ [] ↔
      ∃ settlement ∈ settlements, settlement.fate.outcome.fails = true := by
    rw [hstatus, Status.failures_enter_ne_nil]
    simp
  have hwarnings : after.warnings = [] := by rw [hstatus]; rfl
  simp only [Settlement.spoils_iff, and_or_left, exists_or]
  rw [Report.exitCode_eq_one_iff]
  cases hsink : workflow.sink with
  | none =>
      have hstages : (workflow.report after final.state).stages = [("Processor", after)] := by
        simp [report, Report.stages, hsink]
      have hnever : ¬∃ settlement ∈ settlements, settlement.rejected = true := by
        rintro ⟨settlement, hmem, hrejected⟩
        obtain ⟨e, he⟩ := Settlement.rejected_iff.mp hrejected
        rw [hnone hsink settlement hmem] at he
        cases he
      rw [Report.failed_of_no_warnings (by simpa [hstages] using hwarnings), hstages,
        or_iff_left hnever, ← hprocessor]
      simp
  | some sink =>
      have hstages : (workflow.report after final.state).stages =
          [("Processor", after), (sink.name, Status.receive {} settlements)] := by
        simp [report, Report.stages, hsink, hbooks sink hsink]
      have hreceived : (Status.receive {} settlements).warnings = [] := rfl
      rw [Report.failed_of_no_warnings (by simpa [hstages] using ⟨hwarnings, hreceived⟩), hstages,
        ← hprocessor, ← Status.failures_receive_ne_nil]
      simp

/-- A catalog with a table, and a suite of one test case on it. -/
def rowsCatalog : MemoryCatalog :=
  let suite : TestSuite := ⟨.ofNat 1, "nightly", none, none⟩
  let definition : TestDefinition := ⟨.ofNat 2, "tableRowCountToEqual", none, none, none⟩
  let table : Table := ⟨.ofNat 3, "orders", some "svc.db.sch.orders", [], none, none, none⟩
  let rows : TestCase :=
    ⟨.ofNat 4, "rows", none, none, "<#E::table::svc.db.sch.orders>", Entity.reference suite,
      Entity.reference definition, []⟩
  let catalog : MemoryCatalog := {}
  catalog.insert suite |>.insert rows |>.insert table

/-- A catalog that takes no results. -/
def refusing : CatalogClient MemoryCatalog :=
  { MemoryCatalog.client with addResult := fun _ _ => throw (.refused 403 "read only") }

/-- A run of the suite `nightly` with the same verdict on every test case, which it writes back. -/
def judging (client : CatalogClient MemoryCatalog) (verdict : TestCaseStatus) :
    Workflow (MemoryCatalog × SinkDesk) where
  config := .ofSource "sample-data" "nightly"
  client := client.lift Part.first
  executor := ⟨"steady", fun _ _ => pure (some ⟨0, verdict, none, []⟩)⟩
  sink := some (Sink.metadata (client.lift Part.first) (Part.second.comp books))

/-- What such a run gives and leaves. -/
def judged (client : CatalogClient MemoryCatalog) (verdict : TestCaseStatus) :
    (Except WorkflowError Unit × Status) × World (MemoryCatalog × SinkDesk) :=
  ((judging client verdict).run.run {}).run ⟨(rowsCatalog, {}), []⟩

end Workflow

end DataQuality

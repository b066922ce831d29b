import DataQuality.Proofs.Frame
import DataQuality.Proofs.Workflow.Accounting

/-!
# Settlements

A test case is settled when its fate is known and the sink has answered to its result, if it was
given one. `settlements` observes this along a run, each answer in the world in which the run asks
for it. The status of the run is kept by the fates, the books of the sink by its answers, and
neither looks at the verdicts.
-/

namespace DataQuality

/-- The fate of a test case, and what the sink answered if its result was handed over. -/
structure Settlement where
  fate : Fate
  receipt : Option (Except SinkError Unit)

namespace Settlement

def key (settlement : Settlement) : String := settlement.fate.testCase.key

/-- The sink took the result. -/
def taken (settlement : Settlement) : Bool :=
  match settlement.receipt with
  | some (.ok ()) => true
  | _ => false

/-- The sink rejected the result. -/
def rejected (settlement : Settlement) : Bool :=
  match settlement.receipt with
  | some (.error _) => true
  | _ => false

theorem rejected_iff {settlement : Settlement} :
    settlement.rejected = true ↔ ∃ e, settlement.receipt = some (.error e) := by
  unfold rejected
  split
  next e h => exact iff_of_true rfl ⟨e, h⟩
  next h => exact iff_of_false Bool.false_ne_true fun ⟨e, he⟩ => h e he

end Settlement

/-- Books with the answers to further results. -/
def Status.receive (status : Status) (settlements : List Settlement) : Status :=
  { status with
    records := status.records ++ (settlements.filter (·.taken)).map (·.key)
    failures := status.failures ++ (settlements.filter (·.rejected)).map (·.key) }

/-- Books with one more answer. -/
def Status.answered (status : Status) (key : String) : Except SinkError Unit → Status
  | .ok () => status.processed key
  | .error _ => status.failure key

namespace Status

theorem receive_append (status : Status) (settlements others : List Settlement) :
    status.receive (settlements ++ others) = (status.receive settlements).receive others := by
  simp only [receive, List.filter_append, List.map_append, List.append_assoc]

/-- Nothing is entered for results that were not handed over. -/
theorem receive_of_none (status : Status) {settlements : List Settlement}
    (h : ∀ settlement ∈ settlements, settlement.receipt = none) :
    status.receive settlements = status := by
  have htaken : settlements.filter (·.taken) = [] := by
    apply List.filter_eq_nil_iff.mpr
    intro settlement hmem
    simp [Settlement.taken, h settlement hmem]
  have hrejected : settlements.filter (·.rejected) = [] := by
    apply List.filter_eq_nil_iff.mpr
    intro settlement hmem
    simp [Settlement.rejected, h settlement hmem]
  simp [receive, htaken, hrejected]

theorem receive_singleton (status : Status) (fate : Fate) (answer : Except SinkError Unit) :
    status.receive [⟨fate, some answer⟩] = status.answered fate.testCase.key answer := by
  cases answer with
  | ok _ => simp [receive, answered, processed, Settlement.taken, Settlement.rejected,
      Settlement.key]
  | error e => simp [receive, answered, failure, Settlement.taken, Settlement.rejected,
      Settlement.key]

end Status

variable {σ : Type}

/-! ## Observing settlements -/

namespace Workflow

variable (workflow : Workflow σ)

/-- What the sink answers to the result of a test case, where the executor gives one. -/
def receipt (context : TableContext) (testCase : TestCase) (world : World σ) :
    Option (Except SinkError Unit) :=
  match Effect.attempt (workflow.executor.run context testCase) world with
  | (.ok (some result), evaluated) =>
      workflow.sink.map fun sink =>
        (Effect.attempt (sink.write ⟨testCase.key, context.tableName, result⟩) evaluated).1
  | _ => none

/-- How test cases are settled that are evaluated in one context. -/
def casesSettlements (context : TableContext) : List TestCase → World σ → List Settlement
  | [], _ => []
  | testCase :: rest, world =>
      ⟨⟨testCase, .evaluated context
        (Effect.attempt (workflow.executor.run context testCase) world).1⟩,
        workflow.receipt context testCase world⟩ ::
        casesSettlements context rest ((workflow.runTestCase context testCase).leaves world)

/-- Fates of test cases without results. -/
def withoutReceipt (fates : List Fate) : List Settlement :=
  fates.map fun fate => ⟨fate, none⟩

/-- How the test cases of one table are settled, by what building its context gave. -/
def contextSettlements (testCases : List TestCase) :
    Except ContextError TableContext → World σ → List Settlement
  | .ok context, world => workflow.casesSettlements context testCases world
  | .error cause, _ =>
      withoutReceipt (testCases.map fun testCase => ⟨testCase, .withoutContext cause⟩)

def tableSettlements (table : String) (testCases : List TestCase) (world : World σ) :
    List Settlement :=
  let built := Effect.attempt (workflow.tableContext table) world
  workflow.contextSettlements testCases built.1 built.2

/-- How the test cases of several tables are settled. -/
def tablesSettlements : List (String × List TestCase) → World σ → List Settlement
  | [], _ => []
  | (table, testCases) :: rest, world =>
      workflow.tableSettlements table testCases world ++
        tablesSettlements rest ((workflow.runTable table testCases).leaves world)

/-- How a working set is settled. -/
def settlements (testCases : List TestCase) (world : World σ) : List Settlement :=
  let groups := TableGroups.ofTestCases testCases
  withoutReceipt (unlinkedFates groups.unlinked) ++
    workflow.tablesSettlements groups.tables ((prelude groups).leaves world)

/-! ## Their fates -/

theorem map_fate_withoutReceipt (fates : List Fate) :
    (withoutReceipt fates).map (·.fate) = fates := by
  rw [withoutReceipt, List.map_map]
  exact List.map_id fates

theorem receipt_of_withoutReceipt (fates : List Fate) :
    ∀ settlement ∈ withoutReceipt fates, settlement.receipt = none := by
  intro settlement hmem
  obtain ⟨fate, -, rfl⟩ := List.mem_map.mp hmem
  rfl

theorem casesSettlements_fate (context : TableContext) (testCases : List TestCase)
    (world : World σ) :
    (workflow.casesSettlements context testCases world).map (·.fate) =
      workflow.casesFates context testCases world := by
  induction testCases generalizing world with
  | nil => rfl
  | cons testCase rest ih => simp only [casesSettlements, casesFates, List.map_cons, ih]

theorem tableSettlements_fate (table : String) (testCases : List TestCase) (world : World σ) :
    (workflow.tableSettlements table testCases world).map (·.fate) =
      workflow.tableFates table testCases world := by
  rw [tableSettlements, tableFates]
  cases (Effect.attempt (workflow.tableContext table) world).1 with
  | ok context => exact workflow.casesSettlements_fate context testCases _
  | error cause => exact map_fate_withoutReceipt _

theorem tablesSettlements_fate (groups : List (String × List TestCase)) (world : World σ) :
    (workflow.tablesSettlements groups world).map (·.fate) =
      workflow.tablesFates groups world := by
  induction groups generalizing world with
  | nil => rfl
  | cons group rest ih =>
      simp only [tablesSettlements, tablesFates, List.map_append, tableSettlements_fate, ih]

/-- Settlements are those of the fates of a run. -/
theorem settlements_fate (testCases : List TestCase) (world : World σ) :
    (workflow.settlements testCases world).map (·.fate) = workflow.fates testCases world := by
  rw [settlements, fates, List.map_append, map_fate_withoutReceipt, tablesSettlements_fate]

/-- What holds without a receipt and with the receipt of every test case holds of all
settlements. -/
theorem forall_mem_settlements {P : Settlement → Prop} (hwithout : ∀ fate, P ⟨fate, none⟩)
    (hcase : ∀ context testCase world,
      ∀ settlement ∈ workflow.casesSettlements context [testCase] world, P settlement)
    (testCases : List TestCase) (world : World σ) :
    ∀ settlement ∈ workflow.settlements testCases world, P settlement := by
  have hfates : ∀ fates, ∀ settlement ∈ withoutReceipt fates, P settlement := by
    intro fates settlement hmem
    obtain ⟨fate, -, rfl⟩ := List.mem_map.mp hmem
    exact hwithout fate
  have hcases : ∀ context testCases world,
      ∀ settlement ∈ workflow.casesSettlements context testCases world, P settlement := by
    intro context testCases world
    induction testCases generalizing world with
    | nil => exact fun _ hmem => absurd hmem List.not_mem_nil
    | cons testCase rest ih =>
        have hfirst := hcase context testCase world
        exact List.forall_mem_cons.mpr ⟨hfirst _ List.mem_cons_self, ih _⟩
  have htables : ∀ groups world,
      ∀ settlement ∈ workflow.tablesSettlements groups world, P settlement := by
    intro groups world
    induction groups generalizing world with
    | nil => exact fun _ hmem => absurd hmem List.not_mem_nil
    | cons group rest ih =>
        refine List.forall_mem_append.mpr ⟨?_, ih _⟩
        rw [tableSettlements]
        cases (Effect.attempt (workflow.tableContext group.1) world).1 with
        | ok context => exact hcases context group.2 _
        | error cause => exact hfates _
  exact List.forall_mem_append.mpr ⟨hfates _, htables _ _⟩

/-- Without a sink there are no receipts. -/
theorem receipt_of_no_sink (hsink : workflow.sink = none) (testCases : List TestCase)
    (world : World σ) :
    ∀ settlement ∈ workflow.settlements testCases world, settlement.receipt = none := by
  refine workflow.forall_mem_settlements (fun _ => rfl) ?_ testCases world
  intro context testCase world settlement hmem
  rw [List.mem_singleton.mp hmem, receipt, hsink]
  split <;> rfl

/-! ## The books of the sink -/

/-- Books that stay as they are. -/
def booksFrame (books : σ → Status) : Frame σ where
  rel s t := books t = books s
  refl _ := rfl
  trans h h' := h'.trans h

/-- The sink keeps its books by its answers, and what else evaluates test cases leaves them
alone. -/
structure KeepsBooks (books : σ → Status) : Prop where
  context : ∀ table, (booksFrame books).Tries (workflow.tableContext table)
  executor : ∀ context testCase, (booksFrame books).Tries (workflow.executor.run context testCase)
  write : ∀ sink, workflow.sink = some sink → ∀ record world,
    books (Effect.attempt (sink.write record) world).2.state =
      (books world.state).answered record.testCase (Effect.attempt (sink.write record) world).1

/-- An action enters in the books what settlements say. -/
def Settles (books : σ → Status) (action : StatusM σ Unit)
    (settlements : World σ → List Settlement) : Prop :=
  ∀ world, books (action.leaves world).state = (books world.state).receive (settlements world)

variable {books : σ → Status}

/-- Of two actions the second settles from where the first has left. -/
theorem Settles.bind {action next : StatusM σ Unit}
    {watched watchedNext : StatusM (σ × List ExecutorCall) Unit}
    {fates nextFates : World σ → List Fate}
    {settlements nextSettlements : World σ → List Settlement}
    (h : Settles books action settlements) (hkeeps : KeepsTo action watched fates)
    (hnext : Settles books next nextSettlements) (hkeepsNext : KeepsTo next watchedNext nextFates) :
    Settles books (action >>= fun _ => next)
      fun world => settlements world ++ nextSettlements (action.leaves world) := by
  intro world
  rw [hkeeps.leaves_bind hkeepsNext, hnext, h, Status.receive_append]

/-- An action that leaves the books alone settles what gives nothing to the sink. -/
theorem Settles.of_proceeds {action : StatusM σ Unit} (h : Proceeds (booksFrame books) action)
    (fates : List Fate) : Settles books action fun _ => withoutReceipt fates := by
  intro world
  rw [Status.receive_of_none _ (receipt_of_withoutReceipt fates)]
  exact h {} world

variable {workflow} (h : workflow.KeepsBooks books)

include h

/-- Handing over a result enters the answer of the sink. -/
theorem KeepsBooks.forward {sink : Sink σ} (hsink : workflow.sink = some sink)
    (record : ResultRecord) (world : World σ) :
    books ((workflow.forward record).run world).2.state =
      (books world.state).answered record.testCase
        (Effect.attempt (sink.write record) world).1 := by
  have hwrite := h.write sink hsink record world
  have hrun : (sink.write record).run.run world = Effect.attempt (sink.write record) world := rfl
  simp only [Workflow.forward, hsink, Effect.run_bind, hrun]
  cases hattempt : Effect.attempt (sink.write record) world with
  | mk answer written =>
      rw [hattempt] at hwrite
      cases answer with
      | ok _ => exact hwrite
      | error e => exact hwrite

theorem KeepsBooks.settles_runTestCase (context : TableContext) (testCase : TestCase) :
    Settles books (workflow.runTestCase context testCase)
      (workflow.casesSettlements context [testCase]) := by
  intro world
  have hbooks := h.executor context testCase world
  simp only [casesSettlements, receipt, StatusM.leaves, runTestCase, StatusM.run_bind,
    StatusM.run_lift]
  cases hattempt : Effect.attempt (workflow.executor.run context testCase) world with
  | mk answer evaluated =>
      rw [hattempt] at hbooks
      have hrun : (workflow.executor.run context testCase).run.run world =
          (answer, evaluated) := hattempt
      have hsame : books evaluated.state = books world.state := hbooks
      rw [hrun, ← hsame]
      -- only a result is handed over, and only to a sink
      cases answer with
      | error e => exact (Status.receive_of_none _ (by simp)).symm
      | ok result? =>
          cases result? with
          | none => exact (Status.receive_of_none _ (by simp)).symm
          | some result =>
              cases hsink : workflow.sink with
              | none =>
                  simp only [Workflow.forward, hsink]
                  exact (Status.receive_of_none _ (by simp)).symm
              | some sink =>
                  have hforward :=
                    h.forward hsink ⟨testCase.key, context.tableName, result⟩ evaluated
                  exact hforward.trans (Status.receive_singleton _ ⟨testCase, _⟩ _).symm

theorem KeepsBooks.settles_runTestCases (context : TableContext) (testCases : List TestCase) :
    Settles books (workflow.runTestCases context testCases)
      (workflow.casesSettlements context testCases) := by
  induction testCases with
  | nil => exact .of_proceeds (fun _ world => (booksFrame books).refl world.state) []
  | cons testCase rest ih =>
      exact (h.settles_runTestCase context testCase).bind
        (workflow.runTestCase_keepsTo context testCase) ih
        (workflow.runTestCases_keepsTo context rest)

theorem KeepsBooks.settles_runTable (table : String) (testCases : List TestCase) :
    Settles books (workflow.runTable table testCases)
      (workflow.tableSettlements table testCases) := by
  intro world
  have hbooks := h.context table world
  simp only [tableSettlements, StatusM.leaves, runTable, StatusM.run_bind, StatusM.run_lift]
  cases hattempt : Effect.attempt (workflow.tableContext table) world with
  | mk answer built =>
      rw [hattempt] at hbooks
      have hrun : (TableContext.build workflow.client
          (!workflow.config.isSampleSource) table).run.run world = (answer, built) := hattempt
      have hsame : books built.state = books world.state := hbooks
      rw [hrun, ← hsame]
      cases answer with
      | ok context => exact h.settles_runTestCases context testCases built
      | error cause =>
          have hskipped : Proceeds (booksFrame books)
              (StateT.lift (Effect.log .warn s!"Skipping table {table}: {cause.message}") >>=
                fun _ => failAll testCases) :=
            .lift_bind ((booksFrame books).keeps_log _ _) fun _ => proceeds_failAll testCases
          exact Settles.of_proceeds hskipped _ built

theorem KeepsBooks.settles_runTables (groups : List (String × List TestCase)) :
    Settles books (workflow.runTables groups) (workflow.tablesSettlements groups) := by
  induction groups with
  | nil => exact .of_proceeds (fun _ world => (booksFrame books).refl world.state) []
  | cons group rest ih =>
      exact (h.settles_runTable group.1 group.2).bind
        (workflow.runTable_keepsTo group.1 group.2) ih (workflow.runTables_keepsTo rest)

/-- Evaluating a working set enters in the books what its settlements say. -/
theorem KeepsBooks.settles_runAll (working : List TestCase) :
    Settles books (workflow.runAll working) (workflow.settlements working) := by
  have hprelude : Proceeds (booksFrame books)
      (prelude (TableGroups.ofTestCases working) : StatusM σ Unit) :=
    .lift_bind ((booksFrame books).keeps_log _ _) fun _ => proceeds_failUnlinked _
  exact (Settles.of_proceeds hprelude _).bind (prelude_keepsTo _) (h.settles_runTables _)
    (workflow.runTables_keepsTo _)

end Workflow

end DataQuality

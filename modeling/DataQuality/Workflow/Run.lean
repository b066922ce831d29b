import DataQuality.Check.Executor
import DataQuality.Workflow.Groups
import DataQuality.Workflow.Reconcile
import DataQuality.Workflow.Report

/-!
# Runs

A run finds its suites, completes the test cases stored for them with the declared ones, groups
them by table, and evaluates each in the context of its table. A table without context fails all
of its test cases, a test case that cannot be evaluated fails alone; neither ends the run. What
fails before the first test case ends it, and leaves the status as it was.
-/

namespace DataQuality

/-- A run and the components it works with. -/
structure Workflow (σ : Type) where
  config : WorkflowConfig
  client : CatalogClient σ
  executor : TestExecutor σ
  sink : Option (Sink σ)

/-- An action of a run on its status and the world. -/
abbrev StatusM (σ : Type) := StateT Status (Effect σ)

/-- An action of a run that may fail. -/
abbrev WorkflowM (σ : Type) := ExceptT WorkflowError (StatusM σ)

namespace WorkflowM

variable {σ α : Type}

def ofEffect (action : Effect σ α) : WorkflowM σ α :=
  ExceptT.lift (StateT.lift action)

def ofCatalog (action : CatalogM σ α) : WorkflowM σ α :=
  ExceptT.mk (StateT.lift (ExceptT.adapt WorkflowError.catalog action).run)

end WorkflowM

namespace Workflow

variable {σ : Type}

/-- The settings that are asked for with test cases. -/
def testCaseFields : List String := ["testSuite", "entityLink", "testDefinition"]

/-- The suite named after the service, if there is one. -/
def namedSuite (workflow : Workflow σ) : CatalogM σ (Option TestSuite) := do
  let found ← workflow.client.find TestSuite workflow.config.source.serviceName []
  match found with
  | none => return none
  | some suite =>
      Effect.note .info s!"Found test suite {suite.name} ({suite.id.render})"
      return some suite

/-- The suite of a declaration, created if there is none. -/
def declaredSuite (workflow : Workflow σ) (declared : SuiteDeclaration) :
    CatalogM σ TestSuite := do
  match ← workflow.client.find TestSuite declared.name [] with
  | some suite => return suite
  | none =>
      Effect.note .info s!"Creating test suite {declared.name}"
      workflow.client.create TestSuite (.testSuite ⟨declared.name, declared.description⟩)

/-- The suites of declarations, in order, up to the first failure. -/
def suitesOf (workflow : Workflow σ) : List SuiteDeclaration → CatalogM σ (List TestSuite)
  | [] => return []
  | declared :: rest => do
      let suite ← workflow.declaredSuite declared
      let others ← workflow.suitesOf rest
      return suite :: others

def declaredSuites (workflow : Workflow σ) : CatalogM σ (List TestSuite) :=
  workflow.suitesOf workflow.config.testSuites

/-- The suite named after the service or, if there is none, the declared ones. -/
def suites (workflow : Workflow σ) : CatalogM σ (List TestSuite) := do
  match ← workflow.namedSuite with
  | some suite => return [suite]
  | none => workflow.declaredSuites

def ofSuite (suite : TestSuite) : Filter := [("testSuiteId", suite.id.render)]

def storedCases (workflow : Workflow σ) : List TestSuite → CatalogM σ (List TestCase)
  | [] => return []
  | suite :: rest => do
      let stored ← workflow.client.findAll TestCase testCaseFields (ofSuite suite)
      let others ← workflow.storedCases rest
      return stored ++ others

/-- The test cases stored for suites, completed with the declared ones. -/
def testCases (workflow : Workflow σ) (suites : List TestSuite) : CatalogM σ (List TestCase) := do
  let stored ← workflow.storedCases suites
  if workflow.config.testSuites.isEmpty then return stored
  else ExceptT.lift (Declared.reconcile workflow.client workflow.config.testSuites stored)

def processed (key : String) : StatusM σ Unit :=
  modify fun status => status.processed key

/-- One more failed key. -/
def failure (key : String) : StatusM σ Unit :=
  modify fun status => status.failure key

/-- Hands a record to the sink, if there is one. A refusal is logged. -/
def forward (workflow : Workflow σ) (record : ResultRecord) : Effect σ Unit := do
  match workflow.sink with
  | none => return ()
  | some sink =>
      match ← (sink.write record).run with
      | .ok () => return ()
      | .error e =>
          Effect.log .warn
            s!"Sink {sink.name} rejected result of {record.testCase}: {e.message}"

def runTestCase (workflow : Workflow σ) (context : TableContext) (testCase : TestCase) :
    StatusM σ Unit := do
  match ← StateT.lift (workflow.executor.run context testCase).run with
  | .ok (some result) =>
      StateT.lift (workflow.forward ⟨testCase.key, context.tableName, result⟩)
      processed testCase.key
  | .ok none => processed testCase.key
  | .error e =>
      StateT.lift
        (Effect.log .warn s!"Test case {testCase.key} failed to execute: {e.message}")
      failure testCase.key

def failAll : List TestCase → StatusM σ Unit
  | [] => return ()
  | testCase :: rest => do
      failure testCase.key
      failAll rest

def runTestCases (workflow : Workflow σ) (context : TableContext) :
    List TestCase → StatusM σ Unit
  | [] => return ()
  | testCase :: rest => do
      workflow.runTestCase context testCase
      workflow.runTestCases context rest

/-- Evaluates the test cases of a table, all of which fail if it has no context. -/
def runTable (workflow : Workflow σ) (table : String) (testCases : List TestCase) :
    StatusM σ Unit := do
  let connections := !workflow.config.isSampleSource
  match ← StateT.lift (TableContext.build workflow.client connections table).run with
  | .ok context => workflow.runTestCases context testCases
  | .error e =>
      StateT.lift (Effect.log .warn s!"Skipping table {table}: {e.message}")
      failAll testCases

def runTables (workflow : Workflow σ) : List (String × List TestCase) → StatusM σ Unit
  | [] => return ()
  | (table, testCases) :: rest => do
      workflow.runTable table testCases
      workflow.runTables rest

/-- Fails test cases whose link names no table. -/
def failUnlinked : List TestCase → StatusM σ Unit
  | [] => return ()
  | testCase :: rest => do
      StateT.lift (Effect.log .warn
        s!"Test case {testCase.key} has no table in its entity link {testCase.entityLink}")
      failure testCase.key
      failUnlinked rest

def runAll (workflow : Workflow σ) (testCases : List TestCase) : StatusM σ Unit := do
  let groups := TableGroups.ofTestCases testCases
  StateT.lift (Effect.log .info s!"Running test cases on {groups.tables.length} tables")
  failUnlinked groups.unlinked
  workflow.runTables groups.tables

/-- The test cases to evaluate. -/
def workingSet (workflow : Workflow σ) : CatalogM σ (List TestCase) := do
  let suites ← workflow.suites
  if suites.isEmpty then
    Effect.note .warn
      s!"No test suite found for {workflow.config.source.serviceName} and none declared"
  workflow.testCases suites

/-- Finds the test cases and evaluates them. -/
def execute (workflow : Workflow σ) : WorkflowM σ Unit := do
  let testCases ← WorkflowM.ofCatalog workflow.workingSet
  ExceptT.lift (workflow.runAll testCases)

/-- Closes the sink and the client. Both are attempted; the first error counts. -/
def stop (workflow : Workflow σ) : Effect σ (Except WorkflowError Unit) := do
  let sinkClosed ←
    match workflow.sink with
    | some sink => (ExceptT.adapt WorkflowError.sink sink.close).run
    | none => pure (.ok ())
  let clientClosed ← (ExceptT.adapt WorkflowError.catalog workflow.client.close).run
  return match sinkClosed with
    | .error e => .error e
    | .ok () => clientClosed

/-- Executes and stops, also when the execution failed. The error of the execution counts first. -/
def run (workflow : Workflow σ) : StatusM σ (Except WorkflowError Unit) := do
  let executed ← workflow.execute.run
  let stopped ← StateT.lift workflow.stop
  match stopped with
  | .error e => StateT.lift (Effect.log .error s!"Failed to stop workflow: {e.message}")
  | .ok () => pure ()
  return match executed with
    | .error e => .error e
    | .ok () => stopped

def report (workflow : Workflow σ) (status : Status) (state : σ) : Report where
  processor := status
  sink := workflow.sink.map fun sink => (sink.name, sink.status state)

end Workflow

end DataQuality

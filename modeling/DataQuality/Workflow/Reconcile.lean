import DataQuality.Catalog.Client
import DataQuality.Workflow.Config

/-!
# Reconciliation

Declared test cases are compared with stored ones, by name alone. Those that are not stored are
created, each from its first declaration; what cannot be created is logged and left out.
-/

namespace DataQuality

/-- A declared test case and the suite that declares it. -/
structure Declared where
  testCase : TestCaseDeclaration
  suite : SuiteDeclaration
  deriving DecidableEq, Repr

namespace Declared

def name (declared : Declared) : String := declared.testCase.name

def ofSuites (suites : List SuiteDeclaration) : List Declared :=
  suites.flatMap fun suite => suite.testCases.map fun testCase => ⟨testCase, suite⟩

/-- The first declaration of every name that is not among the given ones. -/
def firstOutside (names : List String) : List Declared → List Declared
  | [] => []
  | declared :: rest =>
      if declared.name ∈ names then firstOutside names rest
      else declared :: firstOutside (declared.name :: names) rest

/-- The declarations to create: the first of every name that is not stored. -/
def pending (declared : List Declared) (stored : List TestCase) : List Declared :=
  firstOutside (stored.map (·.name)) declared

variable {σ : Type}

/-- Creates the test case of a declaration, with references to its definition and its suite. -/
def create (client : CatalogClient σ) (declared : Declared) : CatalogM σ TestCase := do
  let testDefinition ← client.reference .testDefinition declared.testCase.definitionName
  let testSuite ← client.reference .testSuite declared.suite.name
  client.create TestCase (.testCase
    { name := declared.testCase.name
      description := declared.testCase.description
      entityLink := declared.testCase.entityLink
      testDefinition
      testSuite
      parameterValues := declared.testCase.parameterValues })

/-- Creates test cases one after the other; failures are logged and left out. -/
def createAll (client : CatalogClient σ) : List Declared → Effect σ (List TestCase)
  | [] => return []
  | declared :: rest => do
      match ← (declared.create client).run with
      | .ok testCase =>
          let others ← createAll client rest
          return testCase :: others
      | .error e =>
          Effect.log .warn s!"Failed to create test case {declared.name}: {e.message}"
          createAll client rest

/-- Creates what is declared and not stored; the result is what was stored, then what was
created. -/
def reconcile (client : CatalogClient σ) (suites : List SuiteDeclaration)
    (stored : List TestCase) : Effect σ (List TestCase) := do
  match pending (ofSuites suites) stored with
  | [] => return stored
  | first :: rest =>
      Effect.log .info s!"Creating {(first :: rest).length} missing test cases"
      let created ← createAll client (first :: rest)
      return stored ++ created

end Declared

end DataQuality

import DataQuality.Text.Quoted
import DataQuality.Workflow.Context

/-!
# Executors

An executor evaluates a test case in the context of its table. It gives a result, or nothing to
report, or says why it could not evaluate the case.
-/

namespace DataQuality

/-- Why a test case could not be evaluated. -/
inductive ExecutionError where
  | missingDefinition (testCase : String)
  | unknownDefinition (name : String)
  | missingParameter (testCase parameter : String)
  | invalidParameter (testCase parameter value : String)
  | missingColumn (testCase : String)
  | columnNotFound (table column : String)
  | missingProfile (target : String)
  /-- Any other reason, in words. -/
  | failed (message : String)
  deriving DecidableEq, Repr

def ExecutionError.message : ExecutionError → String
  | .missingDefinition testCase => s!"Test case {testCase} references no test definition"
  | .unknownDefinition name => s!"Unknown test definition: {name}"
  | .missingParameter testCase parameter =>
      s!"Missing parameter {parameter} for test case {testCase}"
  | .invalidParameter testCase parameter value =>
      s!"Invalid value {Text.quoted value} for parameter {parameter} of test case {testCase}"
  | .missingColumn testCase => s!"Test case {testCase} does not target a column"
  | .columnNotFound table column => s!"Column {column} not found on table {table}"
  | .missingProfile target => s!"No profile available for {target}"
  | .failed message => s!"Execution failed: {message}"

abbrev ExecutionM (σ : Type) := ExceptT ExecutionError (Effect σ)

/-- Something that evaluates test cases. -/
structure TestExecutor (σ : Type) where
  name : String
  run : TableContext → TestCase → ExecutionM σ (Option TestCaseResult)

def TestExecutor.lift {σ κ : Type} (part : Part σ κ) (executor : TestExecutor κ) :
    TestExecutor σ where
  name := executor.name
  run context testCase := part.lift (executor.run context testCase)

end DataQuality

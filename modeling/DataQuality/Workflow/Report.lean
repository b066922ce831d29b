import DataQuality.Sink.Basic
import DataQuality.Workflow.ConfigFile

/-!
# Reports

What a run reports when it is over: the status of its stages, whether they make it fail, and the
exit code that says so. With `strict`, warnings count like failures.
-/

namespace DataQuality

/-- Why a run failed. -/
inductive WorkflowError where
  | config (cause : ConfigError)
  | catalog (cause : CatalogError)
  | sink (cause : SinkError)
  /-- A stage ended with failures or warnings. -/
  | execution (stage : String) (failures warnings : Nat)
  deriving Repr

def WorkflowError.message : WorkflowError → String
  | .config cause => s!"Configuration error: {cause.message}"
  | .catalog cause => s!"Catalog error: {cause.message}"
  | .sink cause => s!"Sink error: {cause.message}"
  | .execution stage failures warnings =>
      s!"{stage} reported {failures} failures and {warnings} warnings"

/-- The status of the stages of a run: of the test cases, and of the sink under its name. -/
structure Report where
  processor : Status
  sink : Option (String × Status)
  deriving DecidableEq, Repr

namespace Report

/-- The stages in order, under their names. -/
def stages (report : Report) : List (String × Status) :=
  ("Processor", report.processor) :: report.sink.toList

/-- Whether a stage makes the run fail. -/
def failed (report : Report) (strict : Bool) : Bool :=
  report.stages.any fun stage => stage.2.isFailed strict

def exitCode (report : Report) (strict : Bool) : Nat :=
  if report.failed strict then 1 else 0

/-- The first stage with failures or, with `strict`, the first one with warnings. -/
def culprit? (report : Report) (strict : Bool) : Option (String × Status) :=
  match report.stages.find? fun stage => stage.2.hasFailures with
  | some stage => some stage
  | none => if strict then report.stages.find? fun stage => stage.2.hasWarnings else none

/-- Fails on behalf of the first stage at fault. -/
def raise (report : Report) (strict : Bool) : Except WorkflowError Unit :=
  match report.culprit? strict with
  | some (stage, status) =>
      .error (.execution stage status.failures.length status.warnings.length)
  | none => .ok ()

def lines (report : Report) (strict : Bool) : List String :=
  ["Processor Status:"] ++ report.processor.lines ++
    (match report.sink with
      | some (name, status) => s!"Sink Status ({name}):" :: status.lines
      | none => []) ++
    [if report.failed strict then "Workflow finished with failures"
      else "Workflow finished successfully"]

/-- The text of a report, every line ended. -/
def render (report : Report) (strict : Bool) : String :=
  String.join ((report.lines strict).map fun line => line ++ "\n")

end Report

end DataQuality

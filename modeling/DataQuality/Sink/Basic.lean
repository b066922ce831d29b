import DataQuality.Catalog.Error
import DataQuality.Catalog.Result
import DataQuality.Effect
import DataQuality.Files
import DataQuality.Workflow.Status

/-!
# Sinks

A sink takes the records of a run and keeps books on them: a record that it took counts as
processed, one that it refused as failed.
-/

namespace DataQuality

/-- Why a sink could not be made or did not take a record. -/
inductive SinkError where
  | catalog (cause : CatalogError)
  | file (path : String) (cause : FileError)
  | unknownSink (sinkType : String)
  | invalidConfig (message : String)
  | closed
  deriving Repr

def SinkError.message : SinkError → String
  | .catalog cause => s!"Catalog error: {cause.message}"
  | .file path cause => s!"I/O error on {path}: {cause.message}"
  | .unknownSink sinkType => s!"Unknown sink type: {sinkType}"
  | .invalidConfig message => s!"Invalid sink configuration: {message}"
  | .closed => "Sink is closed"

abbrev SinkM (σ : Type) := ExceptT SinkError (Effect σ)

/-- Something that takes records. -/
structure Sink (σ : Type) where
  name : String
  write : ResultRecord → SinkM σ Unit
  close : SinkM σ Unit
  /-- The books of the sink. -/
  status : σ → Status

end DataQuality

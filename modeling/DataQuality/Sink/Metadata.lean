import DataQuality.Catalog.Client
import DataQuality.Sink.Basic
import DataQuality.Workflow.Config

/-!
# The sink of the catalog

Attaches every result to its test case in the catalog. The client belongs to the run, which
closes it; closing the sink does nothing.
-/

namespace DataQuality.Sink

variable {σ : Type}

def storeResult (client : CatalogClient σ) (books : Part σ Status) (record : ResultRecord) :
    SinkM σ Unit := do
  match ← ExceptT.lift (client.addResult record.testCase record.result).run with
  | .ok () => books.change fun status => status.processed record.testCase
  | .error e =>
      Effect.note .warn s!"Failed to store result of {record.testCase}: {e.message}"
      books.change fun status => status.failure record.testCase
      throw (.catalog e)

def metadata (client : CatalogClient σ) (books : Part σ Status) : Sink σ where
  name := SinkConfig.metadata
  write := storeResult client books
  close := pure ()
  status := books.get

end DataQuality.Sink

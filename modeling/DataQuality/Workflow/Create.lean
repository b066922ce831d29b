import DataQuality.Catalog.Rest
import DataQuality.Check.Validator
import DataQuality.Sink.Build
import DataQuality.Workflow.Run

/-!
# Runs from a configuration

A run whose components are those that its configuration asks for: a client of the catalog over
the network, the validators of this library, and the configured sink.
-/

namespace DataQuality

/-- The state of such a run: its connection, and its files and sink. -/
structure Station where
  connection : Connection := {}
  desk : SinkDesk := {}

namespace Station

def connectionPart : Part Station Connection where
  get s := s.connection
  set connection s := { s with connection }

/-- The files and the sink of a run. -/
def deskPart : Part Station SinkDesk where
  get s := s.desk
  set desk s := { s with desk }

end Station

namespace Workflow

variable {σ : Type}

/-- Makes the run of a configuration, after judging it. -/
def create (station : Part σ Station) (clock : Effect σ Int64) (config : WorkflowConfig) :
    ExceptT WorkflowError (Effect σ) (Workflow σ) := do
  match config.check with
  | .error e => throw (.config e)
  | .ok () =>
      match RestClient.ofConfig config.catalog with
      | .error cause => throw (.catalog (.invalidClient cause))
      | .ok settings =>
          let client := settings.client.lift (station.comp Station.connectionPart)
          let sink ←
            match config.sink with
            | none => pure none
            | some sinkConfig =>
                let built ← ExceptT.adapt WorkflowError.sink
                  (Sink.build sinkConfig client (station.comp Station.deskPart))
                pure (some built)
          let service := config.source.serviceName
          Effect.note .info s!"Created workflow for {service} with catalog {client.name}"
          return ⟨config, client, ValidatorRegistry.builtin.executor clock, sink⟩

end Workflow

end DataQuality

import DataQuality.Sink.File
import DataQuality.Sink.Metadata

/-!
# Making a sink

The sink that a configuration asks for. Only one kind is in use at a time, so that one part of
the world holds its state.
-/

namespace DataQuality

/-- The files, and the state of the sink in use. -/
structure SinkDesk where
  files : Files := {}
  sink : FileSink := { file := none }

namespace SinkDesk

def desk : Part SinkDesk FileSink.Desk where
  get s := ⟨s.files, s.sink⟩
  set d _ := ⟨d.files, d.sink⟩

def books : Part SinkDesk Status where
  get s := s.sink.status
  set status s := { s with sink := { s.sink with status } }

end SinkDesk

namespace Sink

variable {σ : Type}

def build (config : SinkConfig) (client : CatalogClient σ) (desk : Part σ SinkDesk) :
    SinkM σ (Sink σ) := do
  if config.sinkType = SinkConfig.metadata then
    desk.change fun state => { state with sink := { file := none } }
    return metadata client (desk.comp SinkDesk.books)
  else if config.sinkType = SinkConfig.file then
    match config.filename with
    | none => throw (.invalidConfig "file sink requires config.filename")
    | some path =>
        desk.tryAct fun state =>
          match FileSink.openFile state.files path with
          | .error e => (.error e, state)
          | .ok opened => (.ok (), ⟨opened.files, opened.sink⟩)
        Effect.note .info s!"Writing test case results to {path}"
        return file (desk.comp SinkDesk.desk)
  else throw (.unknownSink config.sinkType)

end Sink

end DataQuality

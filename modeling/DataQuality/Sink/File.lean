import DataQuality.Json.Writer
import DataQuality.Sink.Basic
import DataQuality.Workflow.Config

/-!
# The sink of a file

Writes one line of JSON per record. Lines are collected and reach the file when enough of them
came together, and when the sink is closed. A closed sink takes nothing.
-/

namespace DataQuality

/-- A file that is open for writing: its path, its place, and the lines not yet written. -/
structure OpenFile where
  path : String
  place : List String
  pending : ByteArray

/-- The state of a sink that writes to a file. -/
structure FileSink where
  file : Option OpenFile
  status : Status := {}

namespace FileSink

/-- The files, and the sink that writes to one of them. -/
structure Desk where
  files : Files
  sink : FileSink

/-- How many bytes are collected before they are written. -/
def capacity : Nat := 8192

def line (record : ResultRecord) : String :=
  String.ofList (record.toJson.write ++ ['\n'])

/-- Collects a line, writing what was collected before when it does not fit. -/
def append (files : Files) (file : OpenFile) (content : ByteArray) : Files × OpenFile :=
  let (files, pending) :=
    if file.pending.size + content.size > capacity then
      (files.append file.place file.pending, ByteArray.empty)
    else (files, file.pending)
  if capacity ≤ content.size then (files.append file.place content, { file with pending })
  else (files, { file with pending := pending ++ content })

def write (desk : Desk) (record : ResultRecord) : Except SinkError Unit × Desk :=
  match desk.sink.file with
  | none =>
      (.error .closed,
        { desk with sink := { desk.sink with status := desk.sink.status.failure record.testCase } })
  | some file =>
      let (files, file) := append desk.files file (line record).toUTF8
      (.ok (), ⟨files, ⟨some file, desk.sink.status.processed record.testCase⟩⟩)

/-- Writes what was collected and closes the file, unless it is closed. -/
def close (desk : Desk) : Desk :=
  match desk.sink.file with
  | none => desk
  | some file =>
      ⟨desk.files.append file.place file.pending, { desk.sink with file := none }⟩

/-- Creates or empties a file and opens a sink on it. -/
def openFile (files : Files) (path : String) : Except SinkError Desk :=
  match files.create path with
  | .error cause => .error (.file path cause)
  | .ok (place, files) => .ok ⟨files, ⟨some ⟨path, place, ByteArray.empty⟩, {}⟩⟩

end FileSink

namespace Sink

variable {σ : Type}

/-- Takes a record; a refusal is logged. -/
def writeLine (desk : Part σ FileSink.Desk) (record : ResultRecord) : SinkM σ Unit := do
  match ← ExceptT.lift (desk.act fun state => FileSink.write state record) with
  | .ok () => pure ()
  | .error e =>
      Effect.note .warn s!"Failed to write result of {record.testCase}: {e.message}"
      throw e

/-- The sink of a file, with the files and its own state as a part of the world. -/
def file (desk : Part σ FileSink.Desk) : Sink σ where
  name := SinkConfig.file
  write := writeLine desk
  close := desk.tryAct fun state => (.ok (), FileSink.close state)
  status state := (desk.get state).sink.status

end Sink

end DataQuality

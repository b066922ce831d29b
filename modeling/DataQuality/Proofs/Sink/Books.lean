import DataQuality.Proofs.Sink.Log
import DataQuality.Proofs.Workflow.Settlement
import DataQuality.Sink.Build

/-!
# The books of a sink

Whatever sink is built on a desk, it starts with empty books, enters each record by the answer that
it gives, and leaves the books alone when it is closed. A sink that attaches results with a client
does so as long as the client leaves the books alone.
-/

namespace DataQuality

variable {σ κ α ε : Type}

theorem Part.attempt_tryAct (part : Part σ κ) (f : κ → Except ε α × κ) (world : World σ) :
    Effect.attempt (part.tryAct f) world =
      ((f (part.get world.state)).1,
        ⟨part.set (f (part.get world.state)).2 world.state, world.journal⟩) := rfl

/-- The sink of a file enters a record by its answer. -/
theorem FileSink.status_write (desk : Desk) (record : ResultRecord) :
    (write desk record).2.sink.status =
      desk.sink.status.answered record.testCase (write desk record).1 := by
  cases h : desk.sink.file with
  | none => rw [write_of_closed h]; rfl
  | some file => rw [write_of_open h]; rfl

theorem FileSink.status_close (desk : Desk) : (close desk).sink.status = desk.sink.status := by
  cases h : desk.sink.file with
  | none => rw [close_of_closed h]
  | some file => rw [close_of_open h]

variable {desk : Part σ SinkDesk} {back : CatalogClient σ}

/-- The books of the sink on a desk. -/
def SinkDesk.booksOn (desk : Part σ SinkDesk) (state : σ) : Status :=
  (desk.get state).sink.status

namespace Sink

open SinkDesk Workflow

/-- The sinks that can be built on a desk. -/
inductive BuiltOn (desk : Part σ SinkDesk) (back : CatalogClient σ) : Sink σ → Prop where
  | metadata : BuiltOn desk back (metadata back (desk.comp books))
  | file : BuiltOn desk back (file (desk.comp SinkDesk.desk))

/-- What is built is one of these sinks, with empty books. -/
theorem builtOn_of_build {config : SinkConfig} {sink : Sink σ} {before world : World σ}
    (h : Effect.attempt (build config back desk) before = (.ok sink, world)) :
    BuiltOn desk back sink ∧ booksOn desk world.state = {} := by
  unfold build at h
  split at h
  next =>
    cases h
    exact ⟨.metadata, by simp [booksOn, desk.get_set]⟩
  next =>
    split at h
    next =>
      split at h
      next => cases h
      next path _ =>
        obtain ⟨_, opened, hopened, hrest⟩ := Effect.exists_of_attempt_bind h
        cases hrest
        refine ⟨.file, ?_⟩
        -- the file was opened, or the sink would not have been built
        cases hfile : FileSink.openFile (desk.get before.state).files path with
        | error e =>
            rw [Part.attempt_tryAct, hfile] at hopened
            cases hopened
        | ok fresh =>
            rw [Part.attempt_tryAct, hfile] at hopened
            cases hopened
            have hget := desk.get_set ⟨fresh.files, fresh.sink⟩ before.state
            exact (congrArg (·.sink.status) hget).trans (FileSink.status_of_openFile hfile)
    next => cases h

/-- A sink that was built keeps its books by its answers, if the client that it writes with leaves
them alone. -/
theorem BuiltOn.write {sink : Sink σ} (h : BuiltOn desk back sink)
    (hback : ∀ name result, (booksFrame (booksOn desk)).Tries (back.addResult name result))
    (record : ResultRecord) (world : World σ) :
    booksOn desk (Effect.attempt (sink.write record) world).2.state =
      (booksOn desk world.state).answered record.testCase
        (Effect.attempt (sink.write record) world).1 := by
  cases h with
  | file =>
      let part := desk.comp SinkDesk.desk
      obtain ⟨hanswer, hdesk⟩ := FileSink.run_perform part (.write record) world
      have hbooks := congrArg (·.sink.status) hdesk
      have hstatus := FileSink.status_write (part.get world.state) record
      have hsame : (Effect.attempt ((Sink.file part).write record) world).1 =
          (FileSink.write (part.get world.state) record).1 := hanswer
      rw [hsame]
      exact hbooks.trans hstatus
  | metadata =>
      let part := desk.comp books
      have hadded := hback record.testCase record.result world
      have hwrite : (Sink.metadata back part).write record = storeResult back part record := rfl
      rw [hwrite, storeResult, Effect.attempt_bind, Effect.attempt_lift]
      cases hattempt : Effect.attempt (back.addResult record.testCase record.result) world with
      | mk answer added =>
          rw [hattempt] at hadded
          have hsame : part.get added.state = part.get world.state := hadded
          have hrun : (back.addResult record.testCase record.result).run.run world =
              (answer, added) := hattempt
          rw [hrun]
          cases answer with
          | ok _ =>
              exact (part.get_set _ _).trans (congrArg (·.processed record.testCase) hsame)
          | error e =>
              exact (part.get_set _ _).trans (congrArg (·.failure record.testCase) hsame)

/-- Closing it leaves the books alone. -/
theorem BuiltOn.close {sink : Sink σ} (h : BuiltOn desk back sink) :
    (booksFrame (booksOn desk)).Tries sink.close := by
  intro world
  cases h with
  | metadata => rfl
  | file =>
      let part := desk.comp SinkDesk.desk
      have hclose := congrArg (·.sink.status) (FileSink.run_perform part .close world).2
      exact hclose.trans (FileSink.status_close (part.get world.state))

/-- Its books are those on the desk. -/
theorem BuiltOn.status_eq {sink : Sink σ} (h : BuiltOn desk back sink) :
    sink.status = booksOn desk := by
  cases h with
  | metadata => rfl
  | file => rfl

end Sink

end DataQuality

import DataQuality.Proofs.Workflow.Lift

/-!
# Runs under observation

A run can be watched: its executor then notes every call and its answer, in a part of the world
that the rest of the run does not see. What a watched run does beside the notes is what the run
does.
-/

namespace DataQuality

variable {σ κ : Type}

/-- A sink of a part of the world, as a sink of all of it. -/
def Sink.lift (part : Part σ κ) (sink : Sink κ) : Sink σ where
  name := sink.name
  write record := part.liftExcept (sink.write record)
  close := part.liftExcept sink.close
  status state := sink.status (part.get state)

/-- A call of an executor, and what it answered. -/
structure ExecutorCall where
  context : TableContext
  testCase : TestCase
  answer : Except ExecutionError (Option TestCaseResult)

/-- A world and the calls noted in it. -/
def World.withNotes (world : World σ) (notes : List ExecutorCall) :
    World (σ × List ExecutorCall) :=
  ⟨(world.state, notes), world.journal⟩

/-- The executor, which notes each call after it. -/
def TestExecutor.noted (executor : TestExecutor σ) : TestExecutor (σ × List ExecutorCall) where
  name := executor.name
  run context testCase := ExceptT.mk do
    let answer ← Part.first.lift (executor.run context testCase).run
    Part.second.change fun notes => notes ++ [⟨context, testCase, answer⟩]
    return answer

theorem TestExecutor.run_noted (executor : TestExecutor σ) (context : TableContext)
    (testCase : TestCase) (world : World σ) (notes : List ExecutorCall) :
    Effect.attempt (executor.noted.run context testCase) (world.withNotes notes) =
      ((Effect.attempt (executor.run context testCase) world).1,
        (Effect.attempt (executor.run context testCase) world).2.withNotes
          (notes ++
            [⟨context, testCase, (Effect.attempt (executor.run context testCase) world).1⟩])) :=
  rfl

namespace Workflow

/-- The run with notes of its executor's calls. -/
def watched (workflow : Workflow σ) : Workflow (σ × List ExecutorCall) where
  config := workflow.config
  client := workflow.client.lift Part.first
  executor := workflow.executor.noted
  sink := workflow.sink.map (Sink.lift Part.first)

variable (workflow : Workflow σ)

theorem readsThrough_watched : ReadsThrough Part.first workflow.watched workflow := ⟨rfl, rfl⟩

theorem workingSet_watched (world : World σ) (notes : List ExecutorCall) :
    Effect.attempt workflow.watched.workingSet (world.withNotes notes) =
      ((Effect.attempt workflow.workingSet world).1,
        (Effect.attempt workflow.workingSet world).2.withNotes notes) := by
  rw [workflow.readsThrough_watched.workingSet]
  rfl

theorem buildContext_watched (connections : Bool) (table : String) (world : World σ)
    (notes : List ExecutorCall) :
    Effect.attempt (TableContext.build workflow.watched.client connections table)
        (world.withNotes notes) =
      ((Effect.attempt (TableContext.build workflow.client connections table) world).1,
        (Effect.attempt (TableContext.build workflow.client connections table) world).2.withNotes
          notes) := by
  rw [watched, TableContext.build_lift]
  rfl

theorem forward_watched (record : ResultRecord) :
    workflow.watched.forward record = Part.first.lift (workflow.forward record) := by
  cases hsink : workflow.sink with
  | none => simp only [forward, watched, hsink, Option.map_none, Part.lift_pure]
  | some sink =>
      simp only [forward, watched, hsink, Option.map_some, Part.lift_bind]
      refine congrArg (bind _) (funext fun answer => ?_)
      cases answer with
      | ok _ => exact (Part.lift_pure _ _).symm
      | error e => exact (Part.lift_log _ _ _).symm

end Workflow

end DataQuality

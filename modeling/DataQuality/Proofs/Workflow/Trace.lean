import DataQuality.Proofs.Workflow.Lift

/-!
# Traces of runs

A run can be traced: its client, its executor and its sink then note every call and what it
answered, in a part of the world that the rest of the run does not see. Calls are noted as they
were answered, before the run reads anything into the answer.
-/

namespace DataQuality

variable {σ α β ε : Type}

/-- A call of a component, and what it answered. -/
inductive Event where
  | found (kind : EntityKind) (name : String) (fields : List String)
      (answer : Except CatalogError (Option Json))
  | listed (kind : EntityKind) (fields : List String) (filter : Filter)
      (answer : Except CatalogError (List Json))
  | created (request : CreateRequest) (answer : Except CatalogError Json)
  | connected (service : DatabaseService) (kind : ServiceKind)
      (answer : Except CatalogError ServiceConnection)
  | attached (name : String) (result : TestCaseResult) (answer : Except CatalogError Unit)
  | clientClosed (answer : Except CatalogError Unit)
  | evaluated (context : TableContext) (testCase : TestCase)
      (answer : Except ExecutionError (Option TestCaseResult))
  | written (record : ResultRecord) (answer : Except SinkError Unit)
  | sinkClosed (answer : Except SinkError Unit)

/-- A world, and the calls that led to it. -/
def World.withTrace (world : World σ) (trace : List Event) : World (σ × List Event) :=
  ⟨(world.state, trace), world.journal⟩

namespace Event

/-- An action that notes its answer. -/
def noting (event : Except ε α → Event) (action : ExceptT ε (Effect σ) α) :
    ExceptT ε (Effect (σ × List Event)) α := ExceptT.mk do
  let answer ← Part.first.lift action.run
  Part.second.change fun trace => trace ++ [event answer]
  return answer

theorem attempt_noting (event : Except ε α → Event) (action : ExceptT ε (Effect σ) α)
    (world : World σ) (trace : List Event) :
    Effect.attempt (noting event action) (world.withTrace trace) =
      ((Effect.attempt action world).1,
        (Effect.attempt action world).2.withTrace
          (trace ++ [event (Effect.attempt action world).1])) := rfl

/-- An action on a traced world does what another does on the plain world, and adds given calls to
the trace. -/
def Adds (events : World σ → List Event) (traced : ExceptT ε (Effect (σ × List Event)) α)
    (plain : ExceptT ε (Effect σ) α) : Prop :=
  ∀ (world : World σ) (trace : List Event),
    Effect.attempt traced (world.withTrace trace) =
      ((Effect.attempt plain world).1,
        (Effect.attempt plain world).2.withTrace (trace ++ events world))

/-- An action that calls nothing adds nothing. -/
theorem Adds.silent {traced : ExceptT ε (Effect (σ × List Event)) α}
    {plain : ExceptT ε (Effect σ) α} {answer : Except ε α}
    (htraced : ∀ world, Effect.attempt traced world = (answer, world))
    (hplain : ∀ world, Effect.attempt plain world = (answer, world)) :
    Adds (fun _ => []) traced plain := by
  intro world trace
  rw [htraced, hplain, List.append_nil]

/-- What is done with an answer adds nothing if it calls nothing. -/
theorem Adds.bind {events : World σ → List Event}
    {traced : ExceptT ε (Effect (σ × List Event)) α} {plain : ExceptT ε (Effect σ) α}
    {tracedNext : α → ExceptT ε (Effect (σ × List Event)) β}
    {next : α → ExceptT ε (Effect σ) β} (h : Adds events traced plain)
    (hnext : ∀ a, Adds (fun _ => []) (tracedNext a) (next a)) :
    Adds events (traced >>= tracedNext) (plain >>= next) := by
  intro world trace
  have hfirst := h world trace
  cases hplain : Effect.attempt plain world with
  | mk answer middle =>
      rw [hplain] at hfirst
      cases answer with
      | error e => rw [Effect.attempt_bind_error hfirst, Effect.attempt_bind_error hplain]
      | ok a =>
          rw [Effect.attempt_bind_ok hfirst, Effect.attempt_bind_ok hplain, hnext a middle,
            List.append_nil]

end Event

/-- The client, which notes each call after it. -/
def CatalogClient.traced (client : CatalogClient σ) : CatalogClient (σ × List Event) where
  name := client.name
  getByName kind name fields :=
    Event.noting (.found kind name fields) (client.getByName kind name fields)
  listEntities kind fields filter :=
    Event.noting (.listed kind fields filter) (client.listEntities kind fields filter)
  createOrUpdate request := Event.noting (.created request) (client.createOrUpdate request)
  retrieveConnection service kind :=
    Event.noting (.connected service kind) (client.retrieveConnection service kind)
  addResult name result := Event.noting (.attached name result) (client.addResult name result)
  close := Event.noting .clientClosed client.close

/-- The executor, which notes each call after it. -/
def TestExecutor.traced (executor : TestExecutor σ) : TestExecutor (σ × List Event) where
  name := executor.name
  run context testCase :=
    Event.noting (.evaluated context testCase) (executor.run context testCase)

/-- The sink, which notes each call after it. -/
def Sink.traced (sink : Sink σ) : Sink (σ × List Event) where
  name := sink.name
  write record := Event.noting (.written record) (sink.write record)
  close := Event.noting .sinkClosed sink.close
  status state := sink.status state.1

/-- The run with a trace of all calls to its components. -/
def Workflow.traced (workflow : Workflow σ) : Workflow (σ × List Event) where
  config := workflow.config
  client := workflow.client.traced
  executor := workflow.executor.traced
  sink := workflow.sink.map Sink.traced

/-- Looking for an entity is one call, whatever is read into its answer. -/
theorem CatalogClient.adds_find (client : CatalogClient σ) (α : Type) [Entity α] (name : String)
    (fields : List String) :
    Event.Adds
      (fun world => [.found (Entity.kind α) name fields
        (Effect.attempt (client.getByName (Entity.kind α) name fields) world).1])
      (client.traced.find α name fields) (client.find α name fields) := by
  refine Event.Adds.bind (Event.attempt_noting _ _) fun found => ?_
  cases found with
  | none => exact .silent (fun _ => rfl) fun _ => rfl
  | some value =>
      exact (Event.Adds.silent (CatalogM.attempt_decoded_entity α value)
        (CatalogM.attempt_decoded_entity α value)).bind fun _ => .silent (fun _ => rfl) fun _ => rfl

end DataQuality

import DataQuality.Proofs.Simulation
import DataQuality.Proofs.Workflow.Trace
import DataQuality.Sink.Metadata

/-!
# Closing a run

Whatever an execution comes to, the run then closes its sink, if there is one, and its client, once
each and in this order, and calls neither again. While it executes it closes nothing: a traced
execution follows the plain one and adds no call to the trace that closes anything. This holds also
of a sink that attaches results with the client of the run, whose calls are in the same trace.
-/

namespace DataQuality

variable {σ α β ε : Type}

namespace Event

/-! ## Following a run -/

/-- Whether a call closes a sink or a client. -/
def isClosing : Event → Bool
  | .clientClosed _ => true
  | .sinkClosed _ => true
  | _ => false

/-- An action on a traced world does what another does on the plain world, and adds only calls to
the trace that close nothing. -/
def Follows (traced : Effect (σ × List Event) α) (plain : Effect σ α) : Prop :=
  ∀ (world : World σ) (trace : List Event), ∃ events,
    traced.run (world.withTrace trace) =
      ((plain.run world).1, (plain.run world).2.withTrace (trace ++ events)) ∧
    ∀ event ∈ events, event.isClosing = false

/-- An action that calls nothing. -/
theorem Follows.silent {traced : Effect (σ × List Event) α} {plain : Effect σ α}
    (h : ∀ (world : World σ) trace, traced.run (world.withTrace trace) =
      ((plain.run world).1, (plain.run world).2.withTrace trace)) : Follows traced plain := by
  intro world trace
  refine ⟨[], ?_, fun _ h => absurd h List.not_mem_nil⟩
  rw [List.append_nil]
  exact h world trace

theorem Follows.bind {traced : Effect (σ × List Event) α} {plain : Effect σ α}
    {tracedNext : α → Effect (σ × List Event) β} {next : α → Effect σ β}
    (h : Follows traced plain) (hnext : ∀ a, Follows (tracedNext a) (next a)) :
    Follows (traced >>= tracedNext) (plain >>= next) := by
  intro world trace
  obtain ⟨events, hfirst, hevents⟩ := h world trace
  obtain ⟨others, hrest, hothers⟩ :=
    hnext (plain.run world).1 (plain.run world).2 (trace ++ events)
  refine ⟨events ++ others, ?_, ?_⟩
  · rw [Effect.run_bind, Effect.run_bind, hfirst, hrest, List.append_assoc]
  · intro event hevent
    rcases List.mem_append.mp hevent with hevent | hevent
    · exact hevents event hevent
    · exact hothers event hevent

/-- Runs with a trace follow runs without one. -/
def following (σ : Type) : Simulation (σ × List Event) σ where
  rel := Follows
  pure _ := .silent fun _ _ => rfl
  log _ _ := .silent fun _ _ => rfl
  bind := .bind

/-- An action on a traced world that notes its answer, after the calls that it made. -/
def ending (event : Except ε α → Event) (action : ExceptT ε (Effect (σ × List Event)) α) :
    ExceptT ε (Effect (σ × List Event)) α := ExceptT.mk do
  let answer ← action.run
  Part.second.change fun trace => trace ++ [event answer]
  return answer

variable {event : Except ε α → Event}

theorem run_ending {action : ExceptT ε (Effect (σ × List Event)) α} {answer : Except ε α}
    {world : World (σ × List Event)} {left : World σ} {trace : List Event}
    (h : action.run.run world = (answer, left.withTrace trace)) :
    (ending event action).run.run world = (answer, left.withTrace (trace ++ [event answer])) := by
  have hrun : (ending event action).run.run world =
      ((action.run.run world).1,
        ((Part.second.change fun trace => trace ++ [event (action.run.run world).1]).run
          (action.run.run world).2).2) := rfl
  rw [hrun, h]
  rfl

theorem tries_ending (hevent : ∀ answer, (event answer).isClosing = false)
    {traced : ExceptT ε (Effect (σ × List Event)) α} {plain : ExceptT ε (Effect σ) α}
    (h : (following σ).Tries traced plain) : (following σ).Tries (ending event traced) plain := by
  intro world trace
  obtain ⟨events, htraced, hevents⟩ := h world trace
  refine ⟨events ++ [event (plain.run.run world).1], ?_, ?_⟩
  · rw [← List.append_assoc]
    exact run_ending htraced
  · intro other hother
    rcases List.mem_append.mp hother with hother | hother
    · exact hevents other hother
    · rw [List.mem_singleton.mp hother]
      exact hevent _

theorem tries_noting (hevent : ∀ answer, (event answer).isClosing = false)
    (action : ExceptT ε (Effect σ) α) : (following σ).Tries (noting event action) action := by
  intro world trace
  refine ⟨[event (action.run.run world).1], rfl, ?_⟩
  intro other hother
  rw [List.mem_singleton.mp hother]
  exact hevent _

end Event

open Event

theorem CatalogClient.asks_traced (client : CatalogClient σ) :
    (following σ).Asks client.traced client where
  getByName _ _ _ := tries_noting (fun _ => rfl) _
  listEntities _ _ _ := tries_noting (fun _ => rfl) _
  createOrUpdate _ := tries_noting (fun _ => rfl) _
  retrieveConnection _ _ := tries_noting (fun _ => rfl) _
  addResult _ _ := tries_noting (fun _ => rfl) _

/-! ## Sinks in a trace -/

namespace Sink

/-- A sink of a traced world, which notes each call after those that it made. -/
def tracing (sink : Sink (σ × List Event)) : Sink (σ × List Event) where
  name := sink.name
  write record := Event.ending (.written record) (sink.write record)
  close := Event.ending .sinkClosed sink.close
  status := sink.status

/-- A sink of a traced world takes records as another does, and closing it is closing the other
and calls nothing else. -/
structure Traces (traced : Sink (σ × List Event)) (plain : Sink σ) : Prop where
  writes : (following σ).Writes traced plain
  close : ∀ (world : World σ) (trace : List Event),
    Effect.attempt traced.close (world.withTrace trace) =
      ((Effect.attempt plain.close world).1,
        (Effect.attempt plain.close world).2.withTrace
          (trace ++ [.sinkClosed (Effect.attempt plain.close world).1]))

theorem traces_traced (sink : Sink σ) : Traces sink.traced sink where
  writes := ⟨rfl, fun _ => tries_noting (fun _ => rfl) _⟩
  close := attempt_noting .sinkClosed sink.close

/-- The sink of the catalog, with the calls of the client that it shares with the run. -/
theorem traces_metadata (client : CatalogClient σ) (books : Part σ Status) :
    Traces (tracing (metadata client.traced (Part.first.comp books)))
      (metadata client books) where
  writes := by
    refine ⟨rfl, fun record => tries_ending (fun _ => rfl) ?_⟩
    have hbooks : ∀ change : Status → Status,
        (following σ).rel ((Part.first.comp books).change change) (books.change change) :=
      fun _ => .silent fun _ _ => rfl
    have hattached := client.asks_traced.addResult record.testCase record.result
    refine ((following σ).tries_lift hattached).bind fun answer => ?_
    cases answer with
    | ok _ => exact (following σ).tries_lift (hbooks _)
    | error e =>
        refine ((following σ).tries_note _ _).bind fun _ => ?_
        exact ((following σ).tries_lift (hbooks _)).bind fun _ => (following σ).tries_throw _
  close _ _ := rfl

end Sink

/-- How a run ends: what its execution came to, and what its sink, if there is one, and its client
answered when they were closed. -/
structure Ending where
  executed : Except WorkflowError Unit
  sinkClosed : Option (Except SinkError Unit)
  clientClosed : Except CatalogError Unit

namespace Ending

/-- What a run answers: the error of the execution, else that of closing the sink, else that of
closing the client. -/
def answer : Ending → Except WorkflowError Unit
  | ⟨.error e, _, _⟩ => .error e
  | ⟨.ok (), some (.error e), _⟩ => .error (.sink e)
  | ⟨.ok (), _, .error e⟩ => .error (.catalog e)
  | ⟨.ok (), _, .ok ()⟩ => .ok ()

/-- The calls that close. -/
def closings (ending : Ending) : List Event :=
  (ending.sinkClosed.map Event.sinkClosed).toList ++ [.clientClosed ending.clientClosed]

end Ending

namespace Workflow

/-! ## Traced runs -/

/-- A run and the same run with its calls in a trace. -/
structure Traces (traced : Workflow (σ × List Event)) (plain : Workflow σ) : Prop where
  config_eq : traced.config = plain.config
  client_eq : traced.client = plain.client.traced
  executor_eq : traced.executor = plain.executor.traced
  sink : Option.Rel Sink.Traces traced.sink plain.sink

theorem traces_traced (workflow : Workflow σ) : Traces workflow.traced workflow where
  config_eq := rfl
  client_eq := rfl
  executor_eq := rfl
  sink := by
    change Option.Rel _ (workflow.sink.map Sink.traced) _
    cases workflow.sink with
    | none => exact .none
    | some sink => exact .some sink.traces_traced

/-- The run with a sink that attaches results with the client of the run. -/
def attaching (workflow : Workflow σ) (books : Part σ Status) : Workflow σ :=
  { workflow with sink := some (Sink.metadata workflow.client books) }

/-- The same, with the calls that the run and the sink make to the client in one trace. -/
def attachingTraced (workflow : Workflow σ) (books : Part σ Status) :
    Workflow (σ × List Event) :=
  { workflow.traced with
    sink := some (Sink.tracing (Sink.metadata workflow.client.traced (Part.first.comp books))) }

theorem traces_attachingTraced (workflow : Workflow σ) (books : Part σ Status) :
    Traces (workflow.attachingTraced books) (workflow.attaching books) where
  config_eq := rfl
  client_eq := rfl
  executor_eq := rfl
  sink := .some (Sink.traces_metadata workflow.client books)

variable {traced : Workflow (σ × List Event)} {plain : Workflow σ}

theorem Traces.consults (h : Traces traced plain) : Consults (following σ) traced plain where
  config_eq := h.config_eq
  client := by
    rw [h.client_eq]
    exact plain.client.asks_traced

theorem Traces.evaluates (h : Traces traced plain) : Evaluates (following σ) traced plain where
  isSampleSource_eq := congrArg _ h.config_eq
  context := h.consults.client.build
  executor context testCase := by
    rw [h.executor_eq]
    exact tries_noting (fun _ => rfl) _
  sink := by
    have hsinks := h.sink
    generalize traced.sink = tracedSink at hsinks ⊢
    generalize plain.sink = sink at hsinks ⊢
    cases hsinks with
    | none => exact .none
    | some hsink => exact .some hsink.writes

/-! ## Stopping -/

/-- The sink, if there is one, answers to being closed. -/
def closeSink (workflow : Workflow σ) : Effect σ (Option (Except SinkError Unit)) :=
  match workflow.sink with
  | none => pure none
  | some sink => some <$> sink.close.run

/-- What a run logs when it could not stop. -/
def logStopped : Except WorkflowError Unit → Effect σ Unit
  | .error e => Effect.log .error s!"Failed to stop workflow: {e.message}"
  | .ok () => pure ()

section Stop

variable (workflow : Workflow σ) (world : World σ)

theorem run_closeSink_none (h : workflow.sink = none) :
    workflow.closeSink.run world = (none, world) := by
  rw [closeSink, h]
  rfl

theorem run_closeSink_some {sink : Sink σ} (h : workflow.sink = some sink) :
    workflow.closeSink.run world =
      (some (Effect.attempt sink.close world).1, (Effect.attempt sink.close world).2) := by
  rw [closeSink, h]
  rfl

theorem run_closeSink :
    (workflow.closeSink.run world).1 =
      workflow.sink.map fun sink => (Effect.attempt sink.close world).1 := by
  cases hsink : workflow.sink with
  | none =>
      rw [run_closeSink_none workflow world hsink]
      rfl
  | some sink =>
      rw [run_closeSink_some workflow world hsink]
      rfl

/-- Stopping closes the sink and then the client, and answers the first error. -/
theorem run_stop :
    workflow.stop.run world =
      let sinkClosed := workflow.closeSink.run world
      let clientClosed := Effect.attempt workflow.client.close sinkClosed.2
      ((Ending.mk (.ok ()) sinkClosed.1 clientClosed.1).answer, clientClosed.2) := by
  have hadapt : ∀ {ε : Type} (f : ε → WorkflowError) (close : ExceptT ε (Effect σ) Unit) left,
      (ExceptT.adapt f close).run.run left =
        ((Effect.attempt close left).1.mapError f, (Effect.attempt close left).2) :=
    fun _ _ _ => rfl
  cases hsink : workflow.sink with
  | none =>
      simp only [run_closeSink_none workflow world hsink, stop, hsink, Effect.run_bind,
        Effect.run_pure, hadapt]
      cases (Effect.attempt workflow.client.close world).1 with
      | error e => rfl
      | ok _ => rfl
  | some sink =>
      simp only [run_closeSink_some workflow world hsink, stop, hsink, Effect.run_bind,
        Effect.run_pure, hadapt]
      cases (Effect.attempt sink.close world).1 with
      | error e => rfl
      | ok _ =>
          cases (Effect.attempt workflow.client.close (Effect.attempt sink.close world).2).1 with
          | error e => rfl
          | ok _ => rfl

end Stop

/-- A run executes, closes the sink and closes the client, and then logs why it could not stop. -/
theorem run_of_execute {workflow : Workflow σ} {before after : Status}
    {world left middle closed : World σ} (ending : Ending)
    (hexecuted : (workflow.execute.run.run before).run world = ((ending.executed, after), left))
    (hsink : workflow.closeSink.run left = (ending.sinkClosed, middle))
    (hclient : Effect.attempt workflow.client.close middle = (ending.clientClosed, closed)) :
    (workflow.run.run before).run world =
      ((ending.answer, after),
        ((logStopped { ending with executed := .ok () }.answer).run closed).2) := by
  have hstop := workflow.run_stop left
  simp only [hsink, hclient] at hstop
  obtain ⟨executed, sinkClosed, clientClosed⟩ := ending
  simp only [run, StatusM.run_bind, StatusM.run_lift, hexecuted, hstop]
  -- the execution, the sink and the client each fail or do not
  rcases executed with e | _ <;> rcases sinkClosed with _ | ⟨_ | _⟩ <;>
    rcases clientClosed with _ | _ <;> rfl

theorem Traces.run_closeSink (h : Traces traced plain) (world : World σ) (trace : List Event) :
    traced.closeSink.run (world.withTrace trace) =
      ((plain.closeSink.run world).1,
        (plain.closeSink.run world).2.withTrace
          (trace ++ ((plain.closeSink.run world).1.map Event.sinkClosed).toList)) := by
  have hsinks := h.sink
  generalize htraced : traced.sink = tracedSink at hsinks
  generalize hplain : plain.sink = sink at hsinks
  cases hsinks with
  | none =>
      rw [run_closeSink_none traced _ htraced, run_closeSink_none plain _ hplain]
      exact congrArg (none, world.withTrace ·) (List.append_nil trace).symm
  | some hsink =>
      rw [run_closeSink_some traced _ htraced, run_closeSink_some plain _ hplain,
        hsink.close]
      rfl

theorem Traces.attempt_close (h : Traces traced plain) (world : World σ) (trace : List Event) :
    Effect.attempt traced.client.close (world.withTrace trace) =
      ((Effect.attempt plain.client.close world).1,
        (Effect.attempt plain.client.close world).2.withTrace
          (trace ++ [.clientClosed (Effect.attempt plain.client.close world).1])) := by
  rw [h.client_eq]
  rfl

theorem run_logStopped (stopped : Except WorkflowError Unit) (world : World σ)
    (trace : List Event) :
    ((logStopped stopped).run (world.withTrace trace)).2 =
      ((logStopped stopped).run world).2.withTrace trace := by
  cases stopped with
  | error e => rfl
  | ok _ => rfl

/-- How a run ends that is also traced, with the world that its execution leaves and the calls
that this makes. -/
structure Closes (traced : Workflow (σ × List Event)) (plain : Workflow σ)
    (before after : Status) (world left final : World σ) (calls : List Event)
    (ending : Ending) : Prop where
  /-- The execution comes first. -/
  executed : (plain.execute.run.run before).run world = ((ending.executed, after), left)
  executed_traced : (traced.execute.run.run before).run (world.withTrace []) =
    ((ending.executed, after), left.withTrace calls)
  /-- It closes nothing. -/
  calls_open : ∀ event ∈ calls, event.isClosing = false
  sink_closed : ending.sinkClosed =
    plain.sink.map fun sink => (Effect.attempt sink.close left).1
  /-- The status stays as the execution left it. -/
  run_eq : (plain.run.run before).run world = ((ending.answer, after), final)
  /-- The calls of the execution are followed by those that close, and no others. -/
  run_traced : (traced.run.run before).run (world.withTrace []) =
    ((ending.answer, after), final.withTrace (calls ++ ending.closings))

theorem Traces.closes (h : Traces traced plain) (before : Status) (world : World σ) :
    ∃ after left final calls ending,
      Closes traced plain before after world left final calls ending := by
  obtain ⟨calls, htraced, hcalls⟩ := h.consults.execute h.evaluates before world []
  rw [List.nil_append] at htraced
  rcases hplain : (plain.execute.run.run before).run world with ⟨⟨executed, after⟩, left⟩
  rw [hplain] at htraced
  have hsinkTraced := h.run_closeSink left calls
  have hanswer := plain.run_closeSink left
  rcases hsink : plain.closeSink.run left with ⟨sinkClosed, middle⟩
  rw [hsink] at hsinkTraced hanswer
  have hclientTraced := h.attempt_close middle (calls ++ (sinkClosed.map Event.sinkClosed).toList)
  rcases hclient : Effect.attempt plain.client.close middle with ⟨clientClosed, closed⟩
  rw [hclient] at hclientTraced
  let ending : Ending := ⟨executed, sinkClosed, clientClosed⟩
  have hrunTraced := run_of_execute ending htraced hsinkTraced hclientTraced
  rw [run_logStopped, List.append_assoc] at hrunTraced
  exact ⟨after, left, _, calls, ending, hplain, htraced, hcalls, hanswer,
    run_of_execute ending hplain hsink hclient, hrunTraced⟩

/-- A run closes its sink, if there is one, and then its client, each once and whatever the
execution and the closing of the sink came to, and makes no call afterwards. It answers the error
of the execution, else that of the sink, else that of the client, and leaves the status of the
execution. The same is true of a run whose sink attaches results with the client of the run. -/
theorem run_closes (workflow : Workflow σ) (before : Status) (world : World σ) :
    (∃ after left final calls ending,
      Closes workflow.traced workflow before after world left final calls ending) ∧
    ∀ books : Part σ Status, ∃ after left final calls ending,
      Closes (workflow.attachingTraced books) (workflow.attaching books) before after world left
        final calls ending :=
  ⟨workflow.traces_traced.closes before world, fun books =>
    (workflow.traces_attachingTraced books).closes before world⟩

end Workflow

end DataQuality

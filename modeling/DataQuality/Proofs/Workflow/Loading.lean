import DataQuality.Catalog.Recorder
import DataQuality.Proofs.Workflow.Accounting
import DataQuality.Proofs.Workflow.Creation
import DataQuality.Proofs.Workflow.Trace

/-!
# Failures before the first test case

An execution first loads: it resolves its suites and lists their test cases. The calls that it
makes for this, and what they answer, decide whether it fails. It fails with the first of these
calls that does, and has then made no other call and left the status as it was; if none of them
fails, nothing that comes later makes the execution fail.
-/

namespace DataQuality

variable {σ α β ε : Type}

/-- Why an answer is none. -/
def failure? : Except ε α → Option ε
  | .ok _ => none
  | .error e => some e

namespace Event

/-! ## Loading events -/

/-- Whether a call looks up or creates a suite, or lists test cases. -/
def isLoading : Event → Bool
  | .found .testSuite .. => true
  | .created (.testSuite _) _ => true
  | .listed .testCase .. => true
  | _ => false

/-- Why a call of this kind fails: the client does, or its answer is not what was asked for. -/
def loadingFailure? : Event → Option CatalogError
  | .found .testSuite _ _ answer =>
      failure? (answer >>= fun found => found.mapM (Entity.read TestSuite))
  | .created (.testSuite _) answer => failure? (answer >>= Entity.read TestSuite)
  | .listed .testCase _ _ answer =>
      failure? (answer >>= fun values => values.mapM (Entity.read TestCase))
  | _ => none

/-- Calls made for loading, up to the first that fails. -/
inductive Loading : List Event → Option CatalogError → Prop
  | done : Loading [] none
  | passed {event : Event} {events : List Event} {failure : Option CatalogError} :
      event.isLoading = true → event.loadingFailure? = none → Loading events failure →
      Loading (event :: events) failure
  | failed {event : Event} {cause : CatalogError} :
      event.isLoading = true → event.loadingFailure? = some cause → Loading [event] (some cause)

namespace Loading

variable {events others : List Event} {failure : Option CatalogError}

/-- One call is loading that fails if the call does. -/
theorem single {event : Event} (h : event.isLoading = true) :
    Loading [event] event.loadingFailure? := by
  cases hfailure : event.loadingFailure? with
  | none => exact .passed h hfailure .done
  | some cause => exact .failed h hfailure

/-- Where no call failed, loading can go on. -/
theorem append (h : Loading events none) (hothers : Loading others failure) :
    Loading (events ++ others) failure := by
  generalize hnone : (none : Option CatalogError) = outcome at h
  induction h with
  | done => exact hothers
  | passed hloading hpassed _ ih => exact .passed hloading hpassed (ih hnone)
  | failed => cases hnone

theorem isLoading (h : Loading events failure) : ∀ event ∈ events, event.isLoading = true := by
  intro event hevent
  induction h with
  | done => cases hevent
  | passed hloading _ _ ih =>
      rcases List.mem_cons.mp hevent with rfl | hevent
      · exact hloading
      · exact ih hevent
  | failed hloading _ =>
      rw [List.mem_singleton.mp hevent]
      exact hloading

/-- The call that fails is the last, and the only one that does. -/
theorem exists_last {cause : CatalogError} (h : Loading events (some cause)) :
    ∃ asked last, events = asked ++ [last] ∧ (∀ event ∈ asked, event.loadingFailure? = none) ∧
      last.loadingFailure? = some cause := by
  generalize hsome : some cause = outcome at h
  induction h with
  | done => cases hsome
  | @passed event events _ _ hpassed _ ih =>
      obtain ⟨asked, last, rfl, hasked, hlast⟩ := ih hsome
      refine ⟨event :: asked, last, rfl, ?_, hlast⟩
      intro other hother
      rcases List.mem_cons.mp hother with rfl | hother
      · exact hpassed
      · exact hasked other hother
  | @failed event _ _ hfailed =>
      cases hsome
      exact ⟨[], event, rfl, fun _ h => absurd h List.not_mem_nil, hfailed⟩

theorem eq_none_iff (h : Loading events failure) :
    failure = none ↔ ∀ event ∈ events, event.loadingFailure? = none := by
  induction h with
  | done => simp
  | passed _ hpassed _ ih => simp [ih, hpassed]
  | failed _ hfailed => simp [hfailed]

end Loading

/-- An action on a traced world does what another does on the plain world, and the calls that it
adds to the trace are loading that fails as the action does. -/
def Loads (traced : CatalogM (σ × List Event) α) (plain : CatalogM σ α) : Prop :=
  ∀ (world : World σ) (trace : List Event), ∃ events,
    Effect.attempt traced (world.withTrace trace) =
      ((Effect.attempt plain world).1,
        (Effect.attempt plain world).2.withTrace (trace ++ events)) ∧
    Loading events (failure? (Effect.attempt plain world).1)

namespace Loads

theorem pure (a : α) : Loads (Pure.pure a : CatalogM (σ × List Event) α) (Pure.pure a) := by
  intro world trace
  exact ⟨[], by rw [List.append_nil]; rfl, .done⟩

theorem note (level : LogLevel) (text : String) :
    Loads (Effect.note level text : CatalogM (σ × List Event) Unit) (Effect.note level text) := by
  intro world trace
  exact ⟨[], by rw [List.append_nil]; rfl, .done⟩

theorem bind {traced : CatalogM (σ × List Event) α} {plain : CatalogM σ α}
    {tracedNext : α → CatalogM (σ × List Event) β} {next : α → CatalogM σ β}
    (h : Loads traced plain) (hnext : ∀ a, Loads (tracedNext a) (next a)) :
    Loads (traced >>= tracedNext) (plain >>= next) := by
  intro world trace
  obtain ⟨events, htraced, hevents⟩ := h world trace
  cases hplain : Effect.attempt plain world with
  | mk answer middle =>
      rw [hplain] at htraced hevents
      cases answer with
      | error e =>
          -- nothing follows, so the call that failed stays the last
          refine ⟨events, ?_, ?_⟩
          · rw [Effect.attempt_bind_error htraced, Effect.attempt_bind_error hplain]
          · rw [Effect.attempt_bind_error hplain]
            exact hevents
      | ok a =>
          obtain ⟨others, hrest, hothers⟩ := hnext a middle (trace ++ events)
          refine ⟨events ++ others, ?_, ?_⟩
          · rw [Effect.attempt_bind_ok htraced, Effect.attempt_bind_ok hplain, hrest,
              List.append_assoc]
          · rw [Effect.attempt_bind_ok hplain]
            exact hevents.append hothers

/-- A call whose answer is read afterwards, if it fails when the call or the reading does. -/
theorem call {event : Except CatalogError α → Event} {action : CatalogM σ α}
    {tracedNext : α → CatalogM (σ × List Event) β} {next : α → CatalogM σ β}
    {read : α → Except CatalogError β}
    (hloading : ∀ answer, (event answer).isLoading = true)
    (hfailure : ∀ answer, (event answer).loadingFailure? = failure? (answer >>= read))
    (htraced : ∀ a world, Effect.attempt (tracedNext a) world = (read a, world))
    (hnext : ∀ a world, Effect.attempt (next a) world = (read a, world)) :
    Loads (noting event action >>= tracedNext) (action >>= next) := by
  intro world trace
  refine ⟨[event (Effect.attempt action world).1], ?_, ?_⟩
  · rw [Effect.attempt_bind, Effect.attempt_bind, attempt_noting]
    cases Effect.attempt action world with
    | mk answer after =>
        cases answer with
        | error e => rfl
        | ok a => simp only [htraced, hnext]
  · have hanswer : (Effect.attempt (action >>= next) world).1 =
        (Effect.attempt action world).1 >>= read := by
      rw [Effect.attempt_bind]
      cases Effect.attempt action world with
      | mk answer after =>
          cases answer with
          | error e => rfl
          | ok a => exact congrArg Prod.fst (hnext a after)
    rw [hanswer, ← hfailure]
    exact .single (hloading _)

end Loads

end Event

/-! ## Reading answers -/

namespace CatalogM

variable (α) [Entity α]

theorem attempt_decodedAll (values : List Json) (world : World σ) :
    Effect.attempt (decodedAll Entity.decoder values : CatalogM σ (List α)) world =
      (values.mapM (Entity.read α), world) := by
  induction values with
  | nil => rfl
  | cons value rest ih =>
      rw [decodedAll, Effect.attempt_bind, attempt_decoded_entity, List.mapM_cons]
      cases Entity.read α value with
      | error e => rfl
      | ok entity =>
          change Effect.attempt (decodedAll Entity.decoder rest >>= _) world = _
          rw [Effect.attempt_bind, ih]
          cases rest.mapM (Entity.read α) with
          | error e => rfl
          | ok entities => rfl

end CatalogM

namespace Workflow

open Event

variable (workflow : Workflow σ)

/-! ## What is loaded -/

theorem loads_find (name : String) (fields : List String) :
    Loads (workflow.traced.client.find TestSuite name fields)
      (workflow.client.find TestSuite name fields) := by
  apply Loads.call (fun _ => rfl) (fun _ => rfl)
  all_goals
    intro found world
    cases found with
    | none => rfl
    | some value =>
        simp only [Effect.attempt_bind, CatalogM.attempt_decoded_entity, Option.mapM_some]
        cases Entity.read TestSuite value with
        | error e => rfl
        | ok suite => rfl

theorem loads_create (request : CreateTestSuite) :
    Loads (workflow.traced.client.create TestSuite (.testSuite request))
      (workflow.client.create TestSuite (.testSuite request)) :=
  .call (fun _ => rfl) (fun _ => rfl) (CatalogM.attempt_decoded_entity TestSuite)
    (CatalogM.attempt_decoded_entity TestSuite)

theorem loads_findAll (fields : List String) (filter : Filter) :
    Loads (workflow.traced.client.findAll TestCase fields filter)
      (workflow.client.findAll TestCase fields filter) :=
  .call (fun _ => rfl) (fun _ => rfl) (CatalogM.attempt_decodedAll TestCase)
    (CatalogM.attempt_decodedAll TestCase)

theorem loads_namedSuite : Loads workflow.traced.namedSuite workflow.namedSuite := by
  apply (workflow.loads_find _ _).bind
  intro found
  cases found with
  | none => exact .pure none
  | some suite => exact (Loads.note _ _).bind fun _ => .pure (some suite)

theorem loads_declaredSuite (declared : SuiteDeclaration) :
    Loads (workflow.traced.declaredSuite declared) (workflow.declaredSuite declared) := by
  apply (workflow.loads_find _ _).bind
  intro found
  cases found with
  | some suite => exact .pure suite
  | none => exact (Loads.note _ _).bind fun _ => workflow.loads_create _

theorem loads_suitesOf (declared : List SuiteDeclaration) :
    Loads (workflow.traced.suitesOf declared) (workflow.suitesOf declared) := by
  induction declared with
  | nil => exact .pure []
  | cons first rest ih =>
      apply (workflow.loads_declaredSuite first).bind
      intro suite
      exact ih.bind fun others => .pure (suite :: others)

theorem loads_suites : Loads workflow.traced.suites workflow.suites := by
  apply workflow.loads_namedSuite.bind
  intro found
  cases found with
  | some suite => exact .pure [suite]
  | none => exact workflow.loads_suitesOf workflow.config.testSuites

theorem loads_storedCases (suites : List TestSuite) :
    Loads (workflow.traced.storedCases suites) (workflow.storedCases suites) := by
  induction suites with
  | nil => exact .pure []
  | cons suite rest ih =>
      apply (workflow.loads_findAll testCaseFields (ofSuite suite)).bind
      intro stored
      exact ih.bind fun others => .pure (stored ++ others)

/-- Finding the suites and the test cases stored for them is loading. -/
theorem loads_listing : Loads workflow.traced.listing workflow.listing := by
  apply workflow.loads_suites.bind
  intro suites
  by_cases hempty : suites.isEmpty = true
  · simp only [if_pos hempty]
    exact (Loads.note _ _).bind fun _ => workflow.loads_storedCases suites
  · simp only [if_neg hempty]
    exact workflow.loads_storedCases suites

/-! ## How an execution fails -/

/-- The calls that a run makes to find its suites and the test cases stored for them. -/
def loading (world : World σ) : List Event :=
  (Effect.attempt workflow.traced.listing (world.withTrace [])).2.state.2

/-- Listing, traced from the beginning. -/
theorem attempt_listing_traced (world : World σ) :
    Effect.attempt workflow.traced.listing (world.withTrace []) =
      ((Effect.attempt workflow.listing world).1,
        (Effect.attempt workflow.listing world).2.withTrace (workflow.loading world)) ∧
    Loading (workflow.loading world) (failure? (Effect.attempt workflow.listing world).1) := by
  obtain ⟨events, htraced, hevents⟩ := workflow.loads_listing world []
  have hloading : workflow.loading world = events := by
    rw [loading, htraced]
    rfl
  rw [hloading]
  exact ⟨htraced, hevents⟩

/-- An execution fails exactly if listing does. -/
theorem run_execute_of_listing (status : Status) (world : World σ) :
    match Effect.attempt workflow.listing world with
    | (.error cause, loaded) =>
        (workflow.execute.run.run status).run world = ((.error (.catalog cause), status), loaded)
    | (.ok _, _) =>
        ∃ after final, (workflow.execute.run.run status).run world = ((.ok (), after), final) := by
  rw [run_execute, workingSet_eq, Effect.attempt_bind]
  cases Effect.attempt workflow.listing world with
  | mk answer loaded =>
      cases answer with
      | error cause => rfl
      | ok stored => exact ⟨_, _, rfl⟩

/-- An execution that fails has only made calls for loading, fails with the first of them that
does, and leaves the status as it was. One that has loaded without a failure succeeds. -/
theorem execute_fails_while_loading (status : Status) (world : World σ) :
    (∀ e after final,
      (workflow.execute.run.run status).run world = ((.error e, after), final) →
        after = status ∧
        (∃ asked last cause, workflow.loading world = asked ++ [last] ∧
          (∀ event ∈ asked, event.loadingFailure? = none) ∧
          last.loadingFailure? = some cause ∧ e = .catalog cause) ∧
        (workflow.traced.execute.run.run status).run (world.withTrace []) =
          ((.error e, status), final.withTrace (workflow.loading world))) ∧
    (∀ event ∈ workflow.loading world, event.isLoading = true) ∧
    ((∃ after final, (workflow.execute.run.run status).run world = ((.ok (), after), final)) ↔
      ∃ stored loaded, Effect.attempt workflow.listing world = (.ok stored, loaded)) ∧
    ((∃ stored loaded, Effect.attempt workflow.listing world = (.ok stored, loaded)) ↔
      ∀ event ∈ workflow.loading world, event.loadingFailure? = none) := by
  obtain ⟨htraced, hloading⟩ := workflow.attempt_listing_traced world
  have hplain := workflow.run_execute_of_listing status world
  -- the traced run is a run like any other, and fails where its own listing does
  have hrun := workflow.traced.run_execute_of_listing status (world.withTrace [])
  rw [htraced] at hrun
  rw [← hloading.eq_none_iff]
  cases hlisting : Effect.attempt workflow.listing world with
  | mk answer loaded =>
      rw [hlisting] at hplain hrun hloading
      cases answer with
      | error cause =>
          refine ⟨?_, hloading.isLoading, ?_, ?_⟩
          · intro e after final h
            cases hplain.symm.trans h
            obtain ⟨asked, last, hsplit, hasked, hlast⟩ := hloading.exists_last
            exact ⟨rfl, ⟨asked, last, cause, hsplit, hasked, hlast, rfl⟩, hrun⟩
          · constructor
            · rintro ⟨after, final, h⟩
              cases hplain.symm.trans h
            · rintro ⟨stored, loaded, h⟩
              cases h
          · constructor
            · rintro ⟨stored, loaded, h⟩
              cases h
            · intro h
              cases h
      | ok stored =>
          refine ⟨?_, hloading.isLoading, ?_, ?_⟩
          · intro e after final h
            obtain ⟨succeeded, left, hok⟩ := hplain
            cases hok.symm.trans h
          · exact ⟨fun _ => ⟨stored, loaded, rfl⟩, fun _ => hplain⟩
          · exact ⟨fun _ => rfl, fun _ => ⟨stored, loaded, rfl⟩⟩

/-- The run of the suite `nightly`, with a client that can be made to fail. -/
def interruptedRun : Workflow (MemoryCatalog × Recorder) where
  config := nightlyRun.config
  client := (MemoryCatalog.client.lift Part.first).recorded Part.second
  executor := ⟨"silent", fun _ _ => pure none⟩
  sink := none

/-- The catalog of the suite `nightly` while it lists nothing. -/
def unlistedWorld : World (MemoryCatalog × Recorder) :=
  ⟨(nightlyCatalog, ({} : Recorder).fail "list_entities" "down"), []⟩

theorem execute_fails_while_loading_unlisted :
    ∃ e final,
      (interruptedRun.execute.run.run {}).run unlistedWorld = ((.error e, {}), final) ∧
      ∃ asked last cause, interruptedRun.loading unlistedWorld = asked ++ [last] ∧
        asked.length = 1 ∧ last.loadingFailure? = some cause ∧ e = .catalog cause := by
  have hfails : ((interruptedRun.execute.run.run {}).run unlistedWorld).1.1.toBool = false := by
    decide +kernel
  have hlength : (interruptedRun.loading unlistedWorld).length = 2 := by decide +kernel
  obtain ⟨hfailure, -⟩ := interruptedRun.execute_fails_while_loading {} unlistedWorld
  cases hrun : (interruptedRun.execute.run.run {}).run unlistedWorld with
  | mk outcome final =>
      obtain ⟨answer, after⟩ := outcome
      rw [hrun] at hfails
      cases answer with
      | ok _ => cases hfails
      | error e =>
          obtain ⟨rfl, ⟨asked, last, cause, hsplit, -, hlast, he⟩, -⟩ := hfailure e after final hrun
          refine ⟨e, final, rfl, asked, last, cause, hsplit, ?_, hlast, he⟩
          rw [hsplit, List.length_append] at hlength
          exact Nat.succ.inj hlength

end Workflow

end DataQuality

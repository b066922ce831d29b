import DataQuality.Catalog.Rest
import DataQuality.Proofs.Catalog.Memory

/-!
# The life of a client

A client is used until it is closed, and from then on it refuses whatever it is asked, but for
being closed again. It changes nothing any more and sends nothing, and there is no way back. The
client of a catalog in memory moreover changes nothing whenever it fails, open or not.
-/

namespace DataQuality

variable {σ : Type}

/-- A call of a client. -/
inductive ClientCall where
  | getByName (kind : EntityKind) (name : String) (fields : List String)
  | listEntities (kind : EntityKind) (fields : List String) (filter : Filter)
  | createOrUpdate (request : CreateRequest)
  | reference (kind : EntityKind) (name : String)
  | retrieveConnection (service : DatabaseService) (kind : ServiceKind)
  | addResult (name : String) (result : TestCaseResult)
  | close

/-- What a call is answered with when it succeeds. -/
abbrev ClientCall.Answer : ClientCall → Type
  | .getByName .. => Option Json
  | .listEntities .. => List Json
  | .createOrUpdate _ => Json
  | .reference .. => EntityReference
  | .retrieveConnection .. => ServiceConnection
  | .addResult .. => Unit
  | .close => Unit

/-- A call, its answer, and the worlds around it. -/
structure ClientStep (σ : Type) where
  call : ClientCall
  before : World σ
  answer : Except CatalogError call.Answer
  after : World σ

namespace ClientStep

/-- What a closed client in a world does: it refuses every call but to be closed, and the world
stays as it is. -/
inductive Shut (world : World σ) : ClientStep σ → Prop where
  | refused {call : ClientCall} : call ≠ .close → Shut world ⟨call, world, .error .closed, world⟩
  | closed : Shut world ⟨.close, world, .ok (), world⟩

theorem Shut.after_eq {world : World σ} {step : ClientStep σ} (h : step.Shut world) :
    step.after = world := by
  cases h with
  | refused _ => rfl
  | closed => rfl

/-- A step that fails leaves the world as it was. -/
def Atomic (step : ClientStep σ) : Prop :=
  ∀ e, step.answer = .error e → step.after = step.before

end ClientStep

namespace CatalogClient

def perform (client : CatalogClient σ) : (call : ClientCall) → CatalogM σ call.Answer
  | .getByName kind name fields => client.getByName kind name fields
  | .listEntities kind fields filter => client.listEntities kind fields filter
  | .createOrUpdate request => client.createOrUpdate request
  | .reference kind name => client.reference kind name
  | .retrieveConnection service kind => client.retrieveConnection service kind
  | .addResult name result => client.addResult name result
  | .close => client.close

def step (client : CatalogClient σ) (call : ClientCall) (world : World σ) : ClientStep σ :=
  ⟨call, world, (Effect.attempt (client.perform call) world).1,
    (Effect.attempt (client.perform call) world).2⟩

/-- The steps of calls that are made one after the other, whatever they are answered. -/
def history (client : CatalogClient σ) : List ClientCall → World σ → List (ClientStep σ)
  | [], _ => []
  | call :: rest, world =>
      client.step call world :: client.history rest (client.step call world).after

/-- The world that calls leave. -/
def leaves (client : CatalogClient σ) : List ClientCall → World σ → World σ
  | [], world => world
  | call :: rest, world => client.leaves rest (client.step call world).after

theorem map_call_history (client : CatalogClient σ) (calls : List ClientCall)
    (world : World σ) : (client.history calls world).map (·.call) = calls := by
  induction calls generalizing world with
  | nil => rfl
  | cons call rest ih => exact congrArg (List.cons call) (ih _)

theorem history_append (client : CatalogClient σ) (calls others : List ClientCall)
    (world : World σ) :
    client.history (calls ++ others) world =
      client.history calls world ++ client.history others (client.leaves calls world) := by
  induction calls generalizing world with
  | nil => rfl
  | cons call rest ih => exact congrArg (List.cons _) (ih _)

/-- What holds of every single step holds of all steps of a history. -/
theorem forall_mem_history {client : CatalogClient σ} {P : ClientStep σ → Prop}
    (h : ∀ call world, P (client.step call world)) (calls : List ClientCall) (world : World σ) :
    ∀ step ∈ client.history calls world, P step := by
  induction calls generalizing world with
  | nil => exact fun _ hmem => nomatch hmem
  | cons call rest ih => exact List.forall_mem_cons.mpr ⟨h call world, ih _⟩

/-! ## Closed clients -/

/-- Closing a client changes the state as given, and every call in a changed state is refused. -/
structure ShutsBy (client : CatalogClient σ) (shutting : σ → σ) : Prop where
  close_step : ∀ world, client.step .close world =
    ⟨.close, world, .ok (), { world with state := shutting world.state }⟩
  shut : ∀ (world : World σ) call,
    (client.step call { world with state := shutting world.state }).Shut
      { world with state := shutting world.state }

/-- After a client has been closed, whatever happened before, every step is one of a closed client
in the world that closing left. -/
def ClosesForGood (client : CatalogClient σ) (shutting : σ → σ) : Prop :=
  ∀ (calls later : List ClientCall) (world : World σ),
    ∃ (steps laterSteps : List (ClientStep σ)) (last shut : World σ),
      shut = { last with state := shutting last.state } ∧
      client.history (calls ++ .close :: later) world =
        steps ++ ⟨.close, last, .ok (), shut⟩ :: laterSteps ∧
      steps.map (·.call) = calls ∧ laterSteps.map (·.call) = later ∧
      ∀ step ∈ laterSteps, step.Shut shut

/-- A world in which every call is refused stays so. -/
theorem shut_of_mem_history {client : CatalogClient σ} {world : World σ}
    (h : ∀ call, (client.step call world).Shut world) (calls : List ClientCall) :
    ∀ step ∈ client.history calls world, step.Shut world := by
  induction calls with
  | nil => exact fun _ hmem => nomatch hmem
  | cons call rest ih =>
      rw [history, (h call).after_eq]
      exact List.forall_mem_cons.mpr ⟨h call, ih⟩

theorem ShutsBy.closesForGood {client : CatalogClient σ} {shutting : σ → σ}
    (h : client.ShutsBy shutting) : client.ClosesForGood shutting := by
  intro calls later world
  refine ⟨client.history calls world, _, client.leaves calls world, _, rfl, ?_,
    client.map_call_history calls world, client.map_call_history later _,
    shut_of_mem_history (h.shut (client.leaves calls world)) later⟩
  rw [history_append, history, h.close_step]

/-- A step whose call is refused without a trace. -/
theorem step_shut {client : CatalogClient σ} {world : World σ} {call : ClientCall}
    (hcall : call ≠ .close)
    (h : Effect.attempt (client.perform call) world = (.error .closed, world)) :
    (client.step call world).Shut world := by
  rw [step, h]
  exact .refused hcall

/-- The reference that the result of a look-up by name gives. -/
def referenceTo (kind : EntityKind) (name : String) :
    Option Json → Except CatalogError EntityReference
  | none => .error (.notFound kind name)
  | some value => (EntityReference.ofEntity kind (Datum.ofJson value)).mapError .serialization

/-- A reference is asked for as the entity is, and gives what that gives for one. -/
theorem attempt_reference {client : CatalogClient σ} {world next : World σ} {kind : EntityKind}
    {name : String} {found : Except CatalogError (Option Json)}
    (h : Effect.attempt (client.getByName kind name []) world = (found, next)) :
    Effect.attempt (client.reference kind name) world =
      (found.bind (referenceTo kind name), next) := by
  cases found with
  | error e => exact Effect.attempt_bind_error h _
  | ok document =>
      rw [reference, Effect.attempt_bind_ok h]
      cases document with
      | none => rfl
      | some value => exact CatalogM.attempt_decoded _ value _

/-- A client that is not asked for an entity by name gives no reference either. -/
theorem attempt_reference_error {client : CatalogClient σ} {world : World σ} {kind : EntityKind}
    {name : String} {e : CatalogError}
    (h : Effect.attempt (client.getByName kind name []) world = (.error e, world)) :
    Effect.attempt (client.reference kind name) world = (.error e, world) :=
  attempt_reference h

end CatalogClient

/-! ## In memory -/

namespace MemoryCatalog

theorem shutsBy_client :
    client.ShutsBy fun catalog => { catalog with closed := true } where
  close_step _ := rfl
  shut world call := by
    cases call with
    | close => exact .closed
    | getByName kind name fields => exact .refused nofun
    | listEntities kind fields filter => exact .refused nofun
    | createOrUpdate request => exact .refused nofun
    | reference kind name =>
        exact CatalogClient.step_shut nofun (CatalogClient.attempt_reference_error rfl)
    | retrieveConnection service kind => exact .refused nofun
    | addResult name result => exact .refused nofun

/-- Looking for an entity leaves the world as it was. -/
theorem attempt_reference_world (kind : EntityKind) (name : String)
    (world : World MemoryCatalog) :
    (Effect.attempt (client.reference kind name) world).2 = world := by
  have hlookup : Effect.attempt (client.getByName kind name []) world =
      ((Effect.attempt (client.getByName kind name []) world).1, world) := rfl
  rw [CatalogClient.attempt_reference hlookup]

theorem atomic_step (call : ClientCall) (world : World MemoryCatalog) :
    (client.step call world).Atomic := by
  intro e he
  cases call with
  | getByName kind name fields => rfl
  | listEntities kind fields filter => rfl
  | reference kind name => exact attempt_reference_world kind name world
  | retrieveConnection service kind => rfl
  | close => cases he
  | createOrUpdate request =>
      have hanswer : (world.state.createOrUpdate request).1 = .error e := he
      have hafter : (client.step (.createOrUpdate request) world).after =
          { world with state := (world.state.createOrUpdate request).2 } := rfl
      rw [hafter]
      obtain ⟨_, hrun⟩ | ⟨_, -, -, hrun⟩ := world.state.createOrUpdate_cases request
      · rw [hrun]
        rfl
      · rw [hrun] at hanswer
        cases hanswer
  | addResult name result =>
      have hanswer : (world.state.addResult name result).1 = .error e := he
      have hafter : (client.step (.addResult name result) world).after =
          { world with state := (world.state.addResult name result).2 } := rfl
      rw [hafter]
      obtain ⟨_, hrun⟩ | hrun := world.state.addResult_cases name result
      · rw [hrun]
        rfl
      · rw [hrun] at hanswer
        cases hanswer

end MemoryCatalog

/-! ## Over the network -/

namespace RestClient

theorem shutsBy_client (settings : RestClient) :
    settings.client.ShutsBy fun connection => { connection with closed := true } where
  close_step _ := rfl
  shut world call := by
    cases call with
    | close => exact .closed
    | getByName kind name fields => exact .refused nofun
    | listEntities kind fields filter =>
        exact CatalogClient.step_shut nofun (Effect.attempt_bind_error rfl _)
    | createOrUpdate request => exact .refused nofun
    | reference kind name =>
        exact CatalogClient.step_shut nofun (CatalogClient.attempt_reference_error rfl)
    | retrieveConnection service kind => exact .refused nofun
    | addResult name result => exact .refused nofun

end RestClient

namespace CatalogClient

/-- In memory a call that fails leaves everything as it was. In memory and over the network a
client that was closed once refuses all later calls but further closes, and neither it nor the
server, which receives nothing more, changes any more. -/
theorem history_closesForGood :
    (∀ calls world, ∀ step ∈ MemoryCatalog.client.history calls world, step.Atomic) ∧
    MemoryCatalog.client.ClosesForGood (fun catalog => { catalog with closed := true }) ∧
    ∀ settings : RestClient,
      settings.client.ClosesForGood fun connection => { connection with closed := true } :=
  ⟨forall_mem_history MemoryCatalog.atomic_step, MemoryCatalog.shutsBy_client.closesForGood,
    fun settings => settings.shutsBy_client.closesForGood⟩

/-- A suite whose creation is refused leaves no trace in the catalog, which then is closed. -/
theorem history_closesForGood_refused :
    let world : World MemoryCatalog := ⟨MemoryCatalog.refuse {} "nightly", []⟩
    let call := ClientCall.createOrUpdate (.testSuite ⟨"nightly", none⟩)
    let step := MemoryCatalog.client.step call world
    step ∈ MemoryCatalog.client.history [call, .close, call] world ∧
    step.answer = .error (.refused 400 "rejected create of nightly") ∧
    step.after = world ∧
    ∃ closing last : ClientStep MemoryCatalog, ∃ shut : World MemoryCatalog,
      MemoryCatalog.client.history [call, .close, call] world = [step, closing, last] ∧
      shut.state.closed = true ∧ last.Shut shut := by
  intro world call step
  have hmem : step ∈ MemoryCatalog.client.history [call, .close, call] world :=
    List.mem_cons_self
  have hanswer : step.answer = .error (.refused 400 "rejected create of nightly") := rfl
  refine ⟨hmem, hanswer, history_closesForGood.1 _ world step hmem _ hanswer, ?_⟩
  obtain ⟨steps, laterSteps, last, shut, hshut, hhistory, hsteps, hlater, hrefused⟩ :=
    history_closesForGood.2.1 [call] [call] world
  obtain ⟨first, rfl, -⟩ := List.map_eq_singleton_iff.mp hsteps
  obtain ⟨final, rfl, -⟩ := List.map_eq_singleton_iff.mp hlater
  have hfirst : first = step := (List.cons.inj hhistory).1.symm
  exact ⟨⟨.close, last, .ok (), shut⟩, final, shut, hfirst ▸ hhistory,
    congrArg (·.state.closed) hshut, hrefused final List.mem_cons_self⟩

end CatalogClient

end DataQuality

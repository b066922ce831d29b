import DataQuality.Catalog.Client
import DataQuality.Workflow.Run

/-!
# Running actions

What an action answers and leaves behind when it is run in a world, for each of the layers that
actions are written in: plain ones, those that may fail, and those that keep a status. An action
on a part, as an action on the whole, runs as it does on the part alone; lifting it commutes
with everything that actions are built from.
-/

namespace DataQuality

variable {σ κ α β ε : Type}

/-- A run with a known answer and status, whatever world it leaves. -/
theorem exists_run_ok {run : (Except ε α × κ) × σ} {a : α} {status : κ}
    (h : run.1.1.toOption = some a) (hstatus : run.1.2 = status) :
    ∃ final, run = ((.ok a, status), final) := by
  obtain ⟨⟨answer, after⟩, final⟩ := run
  cases answer with
  | error e => cases h
  | ok b =>
      cases h
      cases hstatus
      exact ⟨final, rfl⟩

theorem exists_attempt_ok {run : Except ε α × σ} {a : α} (h : run.1.toOption = some a) :
    ∃ final, run = (.ok a, final) := by
  obtain ⟨answer, final⟩ := run
  cases answer with
  | error e => cases h
  | ok b =>
      cases h
      exact ⟨final, rfl⟩

/-! ## Running in a world -/

namespace Effect

theorem run_pure (a : α) (world : World σ) : (pure a : Effect σ α).run world = (a, world) := rfl

theorem run_bind (action : Effect σ α) (next : α → Effect σ β) (world : World σ) :
    (action >>= next).run world =
      (next (action.run world).1).run (action.run world).2 := rfl

theorem run_log (level : LogLevel) (text : String) (world : World σ) :
    (log level text).run world =
      ((), { world with journal := world.journal ++ [⟨level, text⟩] }) := rfl

/-- Actions are the same if they run alike in every world. -/
theorem ext_run {first second : Effect σ α}
    (h : ∀ world, first.run world = second.run world) : first = second :=
  funext h

/-- Running an action that may fail: what it answers or why it fails, and the world it leaves. -/
def attempt (action : ExceptT ε (Effect σ) α) (world : World σ) : Except ε α × World σ :=
  action.run.run world

@[simp] theorem attempt_pure (a : α) (world : World σ) :
    attempt (pure a : ExceptT ε (Effect σ) α) world = (.ok a, world) := rfl

@[simp] theorem attempt_throw (e : ε) (world : World σ) :
    attempt (throw e : ExceptT ε (Effect σ) α) world = (.error e, world) := rfl

@[simp] theorem attempt_lift (action : Effect σ α) (world : World σ) :
    attempt (ExceptT.lift action : ExceptT ε (Effect σ) α) world =
      (.ok (action.run world).1, (action.run world).2) := rfl

@[simp] theorem attempt_note (level : LogLevel) (text : String) (world : World σ) :
    attempt (note level text : ExceptT ε (Effect σ) Unit) world =
      (.ok (), { world with journal := world.journal ++ [⟨level, text⟩] }) := rfl

/-- An action ends with its first failure. -/
theorem attempt_bind (action : ExceptT ε (Effect σ) α) (next : α → ExceptT ε (Effect σ) β)
    (world : World σ) :
    attempt (action >>= next) world =
      match attempt action world with
      | (.ok a, world) => attempt (next a) world
      | (.error e, world) => (.error e, world) := by
  unfold attempt
  rw [ExceptT.run_bind, run_bind]
  cases action.run.run world with
  | mk answer world =>
      cases answer with
      | ok a => rfl
      | error e => rfl

/-- What follows an action that succeeds. -/
theorem attempt_bind_ok {action : ExceptT ε (Effect σ) α} {world next : World σ} {a : α}
    (h : attempt action world = (.ok a, next)) (rest : α → ExceptT ε (Effect σ) β) :
    attempt (action >>= rest) world = attempt (rest a) next := by
  rw [attempt_bind, h]

/-- Nothing follows an action that fails. -/
theorem attempt_bind_error {action : ExceptT ε (Effect σ) α} {world next : World σ} {e : ε}
    (h : attempt action world = (.error e, next)) (rest : α → ExceptT ε (Effect σ) β) :
    attempt (action >>= rest) world = (.error e, next) := by
  rw [attempt_bind, h]

/-- What succeeds in two steps succeeds in the first. -/
theorem exists_of_attempt_bind {action : ExceptT ε (Effect σ) α}
    {rest : α → ExceptT ε (Effect σ) β} {world final : World σ} {b : β}
    (h : attempt (action >>= rest) world = (.ok b, final)) :
    ∃ a next, attempt action world = (.ok a, next) ∧ attempt (rest a) next = (.ok b, final) := by
  rw [attempt_bind] at h
  cases hrun : attempt action world with
  | mk answer next =>
      rw [hrun] at h
      cases answer with
      | ok a => exact ⟨a, next, rfl, h⟩
      | error e => cases h

end Effect

/-- The entity that a value of a catalog stands for. -/
def Entity.read (α : Type) [Entity α] (value : Json) : Except CatalogError α :=
  (Entity.ofJson value).mapError .serialization

theorem Entity.read_of_ofJson {α : Type} [Entity α] {value : Json} {entity : α}
    (h : Entity.ofJson value = .ok entity) : Entity.read α value = .ok entity := by
  rw [Entity.read, h]
  rfl

/-- Reading a value either gives what it stands for or says why it is none; the world stays. -/
theorem CatalogM.attempt_decoded (decode : Decoder α) (value : Json) (world : World σ) :
    Effect.attempt (CatalogM.decoded decode value : CatalogM σ α) world =
      ((decode (Datum.ofJson value)).mapError .serialization, world) := by
  unfold CatalogM.decoded
  split
  next h => rw [h]; rfl
  next h => rw [h]; rfl

theorem CatalogM.attempt_decoded_entity (α : Type) [Entity α] (value : Json) (world : World σ) :
    Effect.attempt (CatalogM.decoded Entity.decoder value : CatalogM σ α) world =
      (Entity.read α value, world) :=
  attempt_decoded Entity.decoder value world

namespace StatusM

theorem run_pure (a : α) (status : Status) (world : World σ) :
    ((pure a : StatusM σ α).run status).run world = ((a, status), world) := rfl

theorem run_bind (action : StatusM σ α) (next : α → StatusM σ β) (status : Status)
    (world : World σ) :
    ((action >>= next).run status).run world =
      ((next ((action.run status).run world).1.1).run ((action.run status).run world).1.2).run
        ((action.run status).run world).2 := rfl

theorem run_lift (action : Effect σ α) (status : Status) (world : World σ) :
    ((StateT.lift action : StatusM σ α).run status).run world =
      (((action.run world).1, status), (action.run world).2) := rfl

end StatusM

/-- An execution runs the test cases that it finds, or ends with why it found none. -/
theorem Workflow.run_execute (workflow : Workflow σ) (status : Status) (world : World σ) :
    (workflow.execute.run.run status).run world =
      match Effect.attempt workflow.workingSet world with
      | (.ok working, loaded) =>
          ((.ok (), (((workflow.runAll working).run status).run loaded).1.2),
            (((workflow.runAll working).run status).run loaded).2)
      | (.error e, loaded) => ((.error (.catalog e), status), loaded) := by
  rw [execute, ExceptT.run_bind, StatusM.run_bind]
  have hload : ((WorkflowM.ofCatalog workflow.workingSet).run.run status).run world =
      (((Effect.attempt workflow.workingSet world).1.mapError WorkflowError.catalog, status),
        (Effect.attempt workflow.workingSet world).2) := rfl
  rw [hload]
  cases Effect.attempt workflow.workingSet world with
  | mk answer loaded =>
      cases answer with
      | ok working => rfl
      | error e => rfl

/-! ## Actions on a part -/

namespace Part

variable (part : Part σ κ)

/-- The part of a world. -/
def world (world : World σ) : World κ := ⟨part.get world.state, world.journal⟩

/-- A world with another part. -/
def within (world : World σ) (inner : World κ) : World σ :=
  ⟨part.set inner.state world.state, inner.journal⟩

@[simp] theorem world_within (world : World σ) (inner : World κ) :
    part.world (part.within world inner) = inner := by
  rw [Part.world, within, part.get_set]

@[simp] theorem within_world (world : World σ) : part.within world (part.world world) = world := by
  rw [Part.world, within, part.set_get]

@[simp] theorem within_within (world : World σ) (inner inner' : World κ) :
    part.within (part.within world inner) inner' = part.within world inner' := by
  rw [within, within, part.set_set]
  rfl

@[simp] theorem world_log (level : LogLevel) (text : String) (world : World σ) :
    part.world ((Effect.log level text).run world).2 =
      ((Effect.log level text).run (part.world world)).2 := rfl

theorem run_lift (action : Effect κ α) (world : World σ) :
    (part.lift action).run world =
      ((action.run (part.world world)).1, part.within world (action.run (part.world world)).2) :=
  rfl

theorem run_act (f : κ → α × κ) (world : World σ) :
    (part.act f).run world =
      ((f (part.get world.state)).1,
        ⟨part.set (f (part.get world.state)).2 world.state, world.journal⟩) := rfl

theorem lift_pure (a : α) : part.lift (pure a) = pure a :=
  Effect.ext_run fun world => by rw [run_lift, Effect.run_pure, Effect.run_pure, within_world]

theorem lift_bind (action : Effect κ α) (next : α → Effect κ β) :
    part.lift (action >>= next) = part.lift action >>= fun a => part.lift (next a) :=
  Effect.ext_run fun world => by
    simp only [run_lift, Effect.run_bind, world_within, within_within]

theorem lift_log (level : LogLevel) (text : String) :
    part.lift (Effect.log level text) = Effect.log level text :=
  Effect.ext_run fun world => by
    simp only [run_lift, Effect.run_log, Part.world, within, part.set_get]

@[simp] theorem get_whole (state : σ) : Part.whole.get state = state := rfl

/-- An action on a part that may fail, as an action on the whole. -/
def liftExcept (action : ExceptT ε (Effect κ) α) : ExceptT ε (Effect σ) α :=
  ExceptT.mk (part.lift action.run)

@[simp] theorem attempt_liftExcept (action : ExceptT ε (Effect κ) α) (world : World σ) :
    Effect.attempt (part.liftExcept action) world =
      ((Effect.attempt action (part.world world)).1,
        part.within world (Effect.attempt action (part.world world)).2) := rfl

end Part

end DataQuality

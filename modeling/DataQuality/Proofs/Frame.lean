import DataQuality.Proofs.Simulation

/-!
# Frames

A frame says what a run leaves alone: it relates the state that an action finds to the one that
it leaves. An action keeps a frame if everything that it is built from does.
-/

namespace DataQuality

/-- A relation of states that holds when nothing is done, and of one step after another. -/
structure Frame (σ : Type) where
  rel : σ → σ → Prop
  refl : ∀ s, rel s s
  trans : ∀ {s t u}, rel s t → rel t u → rel s u

namespace Frame

/-- Nothing changes. -/
def still (σ : Type) : Frame σ where
  rel s t := t = s
  refl _ := rfl
  trans h h' := h'.trans h

variable {σ κ τ α β ε : Type} (frame : Frame σ)

/-- The action leaves a state that is related to the one it finds. -/
def Keeps (action : Effect σ α) : Prop :=
  ∀ world, frame.rel world.state (action.run world).2.state

theorem keeps_pure (a : α) : frame.Keeps (pure a) := fun world => frame.refl world.state

theorem keeps_log (level : LogLevel) (text : String) : frame.Keeps (Effect.log level text) :=
  fun world => frame.refl world.state

variable {frame}

theorem Keeps.bind {action : Effect σ α} {next : α → Effect σ β} (h : frame.Keeps action)
    (hnext : ∀ a, frame.Keeps (next a)) : frame.Keeps (action >>= next) :=
  fun world => frame.trans (h world) (hnext _ _)

/-! ## Actions that may fail -/

variable (frame)

/-- An action that may fail keeps the frame, also when it fails. -/
def Tries (action : ExceptT ε (Effect σ) α) : Prop :=
  ∀ world, frame.rel world.state (Effect.attempt action world).2.state

theorem tries_pure (a : α) : frame.Tries (pure a : ExceptT ε (Effect σ) α) :=
  fun world => frame.refl world.state

theorem tries_throw (e : ε) : frame.Tries (throw e : ExceptT ε (Effect σ) α) :=
  fun world => frame.refl world.state

theorem tries_note (level : LogLevel) (text : String) :
    frame.Tries (Effect.note level text : ExceptT ε (Effect σ) Unit) :=
  fun world => frame.refl world.state

variable {frame}

theorem Keeps.tries {action : Effect σ α} (h : frame.Keeps action) :
    frame.Tries (ExceptT.lift action : ExceptT ε (Effect σ) α) := h

theorem Tries.keeps {action : ExceptT ε (Effect σ) α} (h : frame.Tries action) :
    frame.Keeps action.run := h

theorem Tries.bind {action : ExceptT ε (Effect σ) α} {next : α → ExceptT ε (Effect σ) β}
    (h : frame.Tries action) (hnext : ∀ a, frame.Tries (next a)) :
    frame.Tries (action >>= next) := by
  intro world
  have hfirst := h world
  rw [Effect.attempt_bind]
  cases hrun : Effect.attempt action world with
  | mk answer world' =>
      rw [hrun] at hfirst
      cases answer with
      | ok a => exact frame.trans hfirst (hnext a world')
      | error e => exact hfirst

theorem Tries.adapt {ε' : Type} {action : ExceptT ε (Effect σ) α} (h : frame.Tries action)
    (f : ε → ε') : frame.Tries (ExceptT.adapt f action) := h

/-! ## Parts -/

/-- The frame of a part, as a frame of the whole. -/
def within (part : Part σ κ) (frame : Frame κ) : Frame σ where
  rel s t := frame.rel (part.get s) (part.get t)
  refl s := frame.refl (part.get s)
  trans h h' := frame.trans h h'

theorem Keeps.lift {frame : Frame κ} {action : Effect κ α} (h : frame.Keeps action)
    (part : Part σ κ) : (frame.within part).Keeps (part.lift action) := by
  intro world
  change frame.rel _ (part.get (part.set _ _))
  rw [part.get_set]
  exact h (part.world world)

theorem Tries.liftExcept {frame : Frame κ} {action : ExceptT ε (Effect κ) α}
    (h : frame.Tries action) (part : Part σ κ) :
    (frame.within part).Tries (part.liftExcept action) :=
  Keeps.lift (Tries.keeps h) part

/-- What happens in the second part of a state leaves the first part alone. -/
theorem keeps_lift_second {frame : Frame κ} (action : Effect τ α) :
    (frame.within (Part.first : Part (κ × τ) κ)).Keeps (Part.second.lift action) :=
  fun world => frame.refl world.state.1

/-- Keeping a frame, as a relation of actions that looks at the first of them only. -/
def keeping (frame : Frame σ) : Simulation σ σ where
  rel action _ := frame.Keeps action
  pure := frame.keeps_pure
  log := frame.keeps_log
  bind := Keeps.bind

end Frame

/-! ## Runs -/

namespace Workflow

variable {σ : Type}

/-- The components that evaluate test cases keep a frame. -/
structure EvaluatesWithin (frame : Frame σ) (workflow : Workflow σ) : Prop where
  context : ∀ connections table,
    frame.Tries (TableContext.build workflow.client connections table)
  executor : ∀ context testCase, frame.Tries (workflow.executor.run context testCase)
  sink : ∀ sink, workflow.sink = some sink → ∀ record, frame.Tries (sink.write record)

variable {frame : Frame σ} {workflow : Workflow σ}

theorem EvaluatesWithin.evaluates (h : workflow.EvaluatesWithin frame) :
    Evaluates frame.keeping workflow workflow where
  isSampleSource_eq := rfl
  context := h.context
  executor := h.executor
  sink := by
    cases hsink : workflow.sink with
    | none => exact .none
    | some sink => exact .some ⟨rfl, h.sink sink hsink⟩

/-- An action of a run keeps a frame, whatever the status. -/
def Proceeds (frame : Frame σ) (action : StatusM σ Unit) : Prop :=
  ∀ status, frame.Keeps (action.run status)

theorem Proceeds.lift_bind {α : Type} {effect : Effect σ α} {next : α → StatusM σ Unit}
    (h : frame.Keeps effect) (hnext : ∀ a, Proceeds frame (next a)) :
    Proceeds frame (StateT.lift effect >>= next) :=
  fun status world => frame.trans (h world) (hnext _ status _)

theorem proceeds_failAll (testCases : List TestCase) : Proceeds frame (failAll testCases) :=
  agrees_failAll frame.keeping testCases

theorem proceeds_failUnlinked (testCases : List TestCase) :
    Proceeds frame (failUnlinked testCases) :=
  agrees_failUnlinked frame.keeping testCases

theorem EvaluatesWithin.runTable (h : workflow.EvaluatesWithin frame) (table : String)
    (testCases : List TestCase) : Proceeds frame (workflow.runTable table testCases) :=
  h.evaluates.runTable table testCases

/-- Evaluating test cases keeps a frame that its components keep. -/
theorem EvaluatesWithin.runAll (h : workflow.EvaluatesWithin frame) (testCases : List TestCase) :
    Proceeds frame (workflow.runAll testCases) :=
  h.evaluates.runAll testCases

end Workflow

end DataQuality

import DataQuality.LogLevel

/-!
# Effects

The components of a run act on a world: a state of which each component knows a part, and a
journal of what was logged. A `Part` says how one state lies inside another, so that a component
written for its own state works inside a larger one and leaves the rest of it alone.
-/

namespace DataQuality

/-- One line of the journal. -/
structure LogLine where
  level : LogLevel
  text : String
  deriving DecidableEq, Repr

/-- The state that components act on, and the journal. -/
structure World (σ : Type) where
  state : σ
  journal : List LogLine := []

abbrev Effect (σ : Type) := StateM (World σ)

namespace Effect

variable {σ κ α : Type}

/-- Adds a line to the journal. -/
def log (level : LogLevel) (text : String) : Effect σ Unit :=
  modify fun world => { world with journal := world.journal ++ [⟨level, text⟩] }

/-- Adds a line to the journal, within an action that may fail. -/
def note {ε : Type} (level : LogLevel) (text : String) : ExceptT ε (Effect σ) Unit :=
  ExceptT.lift (log level text)

/-- An action on the state alone. -/
def ofState (f : σ → α × σ) : Effect σ α := fun world =>
  let (a, state) := f world.state
  (a, { world with state })

end Effect

/-- How a state of type `κ` lies inside one of type `σ`. -/
structure Part (σ κ : Type) where
  get : σ → κ
  set : κ → σ → σ
  get_set : ∀ k s, get (set k s) = k := by intros; rfl
  set_get : ∀ s, set (get s) s = s := by intros; rfl
  set_set : ∀ k k' s, set k (set k' s) = set k s := by intros; rfl

namespace Part

variable {σ κ α : Type}

def whole : Part σ σ where
  get s := s
  set k _ := k

/-- The first of two states. -/
def first {τ : Type} : Part (σ × τ) σ where
  get s := s.1
  set k s := (k, s.2)

/-- The second of two states. -/
def second {τ : Type} : Part (τ × σ) σ where
  get s := s.2
  set k s := (s.1, k)

def comp {ι : Type} (outer : Part σ κ) (inner : Part κ ι) : Part σ ι where
  get s := inner.get (outer.get s)
  set i s := outer.set (inner.set i (outer.get s)) s
  get_set i s := by rw [outer.get_set, inner.get_set]
  set_get s := by rw [inner.set_get, outer.set_get]
  set_set i i' s := by rw [outer.get_set, outer.set_set, inner.set_set]

def lift (part : Part σ κ) (action : Effect κ α) : Effect σ α := fun world =>
  let (a, inner) := action ⟨part.get world.state, world.journal⟩
  (a, ⟨part.set inner.state world.state, inner.journal⟩)

/-- An action on the state of a part. -/
def act (part : Part σ κ) (f : κ → α × κ) : Effect σ α :=
  part.lift (Effect.ofState f)

/-- An action on the state of a part that may fail. -/
def tryAct {ε : Type} (part : Part σ κ) (f : κ → Except ε α × κ) : ExceptT ε (Effect σ) α :=
  ExceptT.mk (part.act f)

def change (part : Part σ κ) (f : κ → κ) : Effect σ Unit :=
  part.act fun k => ((), f k)

end Part

end DataQuality

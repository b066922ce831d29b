import DataQuality.Proofs.Simulation

/-!
# Runs in a larger world

Everything that a run asks of its catalog, it asks the same way when the catalog is a part of a
larger world: reading suites and test cases, reconciling and building contexts commute with
lifting the client.
-/

namespace DataQuality

variable {σ κ : Type}

/-- What is done to a part of the world is what is done to the part alone. -/
def Simulation.lifting (part : Part σ κ) : Simulation σ κ where
  rel action inner := action = part.lift inner
  pure a := (part.lift_pure a).symm
  log level text := (part.lift_log level text).symm
  bind := by
    rintro _ _ _ inner _ next rfl hnext
    rw [part.lift_bind]
    exact congrArg _ (funext hnext)

open Simulation

variable (part : Part σ κ)

theorem CatalogClient.asks_lift (client : CatalogClient κ) :
    (lifting part).Asks (client.lift part) client :=
  ⟨fun _ _ _ => rfl, fun _ _ _ => rfl, fun _ => rfl, fun _ _ => rfl, fun _ _ => rfl⟩

namespace Declared

variable (client : CatalogClient κ)

theorem create_lift (declared : Declared) :
    declared.create (client.lift part) = part.liftExcept (declared.create client) :=
  (client.asks_lift part).createDeclared declared

theorem createAll_lift (pending : List Declared) :
    createAll (client.lift part) pending = part.lift (createAll client pending) :=
  (client.asks_lift part).createAll pending

end Declared

theorem TableContext.build_lift (client : CatalogClient κ) (connections : Bool) (name : String) :
    build (client.lift part) connections name =
      part.liftExcept (build client connections name) :=
  (client.asks_lift part).build connections name

namespace Workflow

/-- A run asks the catalog of a part of the world for what another run asks it for alone. -/
structure ReadsThrough (workflow : Workflow σ) (inner : Workflow κ) : Prop where
  config_eq : workflow.config = inner.config
  client_eq : workflow.client = inner.client.lift part

variable {part} {workflow : Workflow σ} {inner : Workflow κ}

theorem ReadsThrough.consults (h : ReadsThrough part workflow inner) :
    Consults (lifting part) workflow inner where
  config_eq := h.config_eq
  client := by
    rw [h.client_eq]
    exact inner.client.asks_lift part

theorem ReadsThrough.suites (h : ReadsThrough part workflow inner) :
    workflow.suites = part.liftExcept inner.suites := h.consults.suites

theorem ReadsThrough.workingSet (h : ReadsThrough part workflow inner) :
    workflow.workingSet = part.liftExcept inner.workingSet := h.consults.workingSet

end Workflow

end DataQuality

import DataQuality.Catalog.Client

/-!
# Recorded clients

A client that notes every call before it passes it on, and that can be made to fail at chosen
operations instead. It shows what a run asks of its catalog.
-/

namespace DataQuality

/-- A call of a catalog client. -/
inductive CatalogCall where
  | getByName (kind : EntityKind) (name : String) (fields : List String)
  | listEntities (kind : EntityKind) (fields : List String) (filter : Filter)
  | createOrUpdate (request : CreateRequest)
  | retrieveConnection (service : String) (kind : ServiceKind)
  | addResult (name : String) (result : TestCaseResult)
  | close
  deriving DecidableEq, Repr

def CatalogCall.operation : CatalogCall → String
  | .getByName .. => "get_by_name"
  | .listEntities .. => "list_entities"
  | .createOrUpdate .. => "create_or_update"
  | .retrieveConnection .. => "retrieve_service_connection"
  | .addResult .. => "add_test_case_result"
  | .close => "close"

/-- The calls that were made, and the operations that fail with a message. -/
structure Recorder where
  calls : List CatalogCall := []
  failing : List (String × String) := []
  deriving Repr

namespace Recorder

/-- Notes a call, and says with which message it fails, if it does. -/
def record (call : CatalogCall) (recorder : Recorder) : Option String × Recorder :=
  ((recorder.failing.find? fun entry => entry.1 == call.operation).map (·.2),
    { recorder with calls := recorder.calls ++ [call] })

def fail (operation message : String) (recorder : Recorder) : Recorder :=
  { recorder with failing := (operation, message) :: recorder.failing }

/-- Lets every operation succeed again. -/
def mend (recorder : Recorder) : Recorder :=
  { recorder with failing := [] }

end Recorder

namespace CatalogClient

variable {σ α : Type}

/-- Notes a call and passes it on, unless its operation fails. -/
def recordedCall (notes : Part σ Recorder) (call : CatalogCall) (action : CatalogM σ α) :
    CatalogM σ α := do
  match ← ExceptT.lift (notes.act (Recorder.record call)) with
  | some message => throw (.unavailable (.other message))
  | none => action

def recorded (client : CatalogClient σ) (notes : Part σ Recorder) : CatalogClient σ where
  name := client.name
  getByName kind name fields :=
    recordedCall notes (.getByName kind name fields) (client.getByName kind name fields)
  listEntities kind fields filter :=
    recordedCall notes (.listEntities kind fields filter)
      (client.listEntities kind fields filter)
  createOrUpdate request :=
    recordedCall notes (.createOrUpdate request) (client.createOrUpdate request)
  retrieveConnection service kind :=
    recordedCall notes (.retrieveConnection service.name kind)
      (client.retrieveConnection service kind)
  addResult name result :=
    recordedCall notes (.addResult name result) (client.addResult name result)
  close := recordedCall notes .close client.close

end CatalogClient

end DataQuality

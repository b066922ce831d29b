import DataQuality.Catalog.Entity
import DataQuality.Catalog.Error
import DataQuality.Catalog.Request
import DataQuality.Catalog.Result
import DataQuality.Effect

/-!
# Catalog clients

What a run asks of a catalog. A client speaks of raw documents, so that it needs to know nothing
of entities; the functions below it give typed access. A client may be anything that acts on the
world and answers.
-/

namespace DataQuality

abbrev CatalogM (σ : Type) := ExceptT CatalogError (Effect σ)

/-- Conditions on listed entities: names and the texts they have to have. -/
abbrev Filter := List (String × String)

structure CatalogClient (σ : Type) where
  /-- What kind of client it is. -/
  name : String
  /-- The entity of a name; none if there is none. -/
  getByName : EntityKind → String → List String → CatalogM σ (Option Json)
  /-- All entities of a kind that meet a filter. -/
  listEntities : EntityKind → List String → Filter → CatalogM σ (List Json)
  createOrUpdate : CreateRequest → CatalogM σ Json
  /-- The connection of a service, asked for in the way that knows about secrets. -/
  retrieveConnection : DatabaseService → ServiceKind → CatalogM σ ServiceConnection
  /-- Attaches a result to the test case of a name. -/
  addResult : String → TestCaseResult → CatalogM σ Unit
  close : CatalogM σ Unit

namespace CatalogM

variable {σ κ α : Type}

def lift (part : Part σ κ) (action : CatalogM κ α) : CatalogM σ α :=
  part.lift action

/-- Reads an entity from a value that the catalog gave. -/
def decoded (decode : Decoder α) (value : Json) : CatalogM σ α :=
  match decode (Datum.ofJson value) with
  | .ok a => pure a
  | .error cause => throw (.serialization cause)

/-- Reads several entities, up to the first that is none. -/
def decodedAll (decode : Decoder α) : List Json → CatalogM σ (List α)
  | [] => pure []
  | value :: rest => do
      let a ← decoded decode value
      let as ← decodedAll decode rest
      return a :: as

end CatalogM

namespace CatalogClient

variable {σ κ : Type}

def lift (part : Part σ κ) (client : CatalogClient κ) : CatalogClient σ where
  name := client.name
  getByName kind name fields := .lift part (client.getByName kind name fields)
  listEntities kind fields filter := .lift part (client.listEntities kind fields filter)
  createOrUpdate request := .lift part (client.createOrUpdate request)
  retrieveConnection service kind := .lift part (client.retrieveConnection service kind)
  addResult name result := .lift part (client.addResult name result)
  close := .lift part client.close

def reference (client : CatalogClient σ) (kind : EntityKind) (name : String) :
    CatalogM σ EntityReference := do
  match ← client.getByName kind name [] with
  | none => throw (.notFound kind name)
  | some value => CatalogM.decoded (EntityReference.ofEntity kind) value

variable (α : Type) [Entity α]

def find (client : CatalogClient σ) (name : String) (fields : List String) :
    CatalogM σ (Option α) := do
  match ← client.getByName (Entity.kind α) name fields with
  | none => return none
  | some value => return some (← CatalogM.decoded Entity.decoder value)

/-- All entities of a type that meet a filter. -/
def findAll (client : CatalogClient σ) (fields : List String) (filter : Filter) :
    CatalogM σ (List α) := do
  CatalogM.decodedAll Entity.decoder
    (← client.listEntities (Entity.kind α) fields filter)

/-- Creates an entity or brings it up to date; the request has to be for its kind. -/
def create (client : CatalogClient σ) (request : CreateRequest) : CatalogM σ α := do
  if request.kind = Entity.kind α then
    CatalogM.decoded Entity.decoder (← client.createOrUpdate request)
  else throw (.invalidRequest (.kindMismatch (Entity.kind α) request.kind))

end CatalogClient

end DataQuality

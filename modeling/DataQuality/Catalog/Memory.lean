import DataQuality.Catalog.Client
import DataQuality.EntityLink
import DataQuality.Keyed

/-!
# Catalog in memory

A catalog that keeps the documents of entities under their kind and key, and remembers what was
created through it and which results it was given. New entities get identifiers that are drawn
one after the other from a given supply.
-/

namespace DataQuality

/-- The state of a catalog in memory. -/
structure MemoryCatalog where
  /-- The documents of each kind, in order of their keys. -/
  entities : EntityKind → List (String × Json) := fun _ => []
  /-- What was created, in order. -/
  created : List (EntityKind × String) := []
  /-- The results that were attached, in order. -/
  results : List (String × TestCaseResult) := []
  /-- The names whose creation is refused. -/
  refusing : List String := []
  closed : Bool := false
  /-- The supply of identifiers, and how many of them were drawn. -/
  supply : Nat → Uuid := Uuid.ofNat
  drawn : Nat := 0

namespace MemoryCatalog

def find? (catalog : MemoryCatalog) (kind : EntityKind) (key : String) : Option Json :=
  Keyed.find? key (catalog.entities kind)

def put (catalog : MemoryCatalog) (kind : EntityKind) (key : String) (value : Json) :
    MemoryCatalog :=
  { catalog with
    entities := fun k =>
      if k = kind then Keyed.insert key value (catalog.entities k) else catalog.entities k }

theorem find?_put (catalog : MemoryCatalog) (kind kind' : EntityKind) (key key' : String)
    (value : Json) :
    (catalog.put kind key value).find? kind' key' =
      if kind' = kind ∧ key' = key then some value else catalog.find? kind' key' := by
  by_cases hkind : kind' = kind
  · simp [find?, put, hkind, Keyed.find?_insert]
  · simp [find?, put, hkind]

/-- Keeps an entity as it is, in place of one with the same key. -/
def insert {α : Type} [Entity α] (catalog : MemoryCatalog) (entity : α) : MemoryCatalog :=
  catalog.put (Entity.kind α) (Entity.key entity) (Entity.toJson entity)

/-- From now on refuses to create entities of a name. -/
def refuse (catalog : MemoryCatalog) (name : String) : MemoryCatalog :=
  { catalog with refusing := name :: catalog.refusing }

def createdCount (catalog : MemoryCatalog) (kind : EntityKind) : Nat :=
  (catalog.created.filter fun entry => entry.1 == kind).length

def testCaseName (name link : String) : Except CatalogError String :=
  match EntityLink.tableOf? link with
  | none => .error (.invalidRequest (.linkWithoutTable link))
  | some table =>
      match EntityLink.columnOf? link with
      | some column => .ok s!"{table}.{column}.{name}"
      | none => .ok s!"{table}.{name}"

/-- The identifier of the document under a kind and a key. -/
def existingId? (catalog : MemoryCatalog) (kind : EntityKind) (key : String) : Option Uuid :=
  ((catalog.find? kind key).bind fun value => value.get? "id").bind fun id =>
    (Uuid.decoder (Datum.ofJson id)).toOption

/-- What a condition of a filter looks at: the suite's identifier, or the member of that name. -/
def filtered? (value : Json) (name : String) : Option Json :=
  if name = "testSuiteId" then (value.get? "testSuite").bind fun suite => suite.get? "id"
  else value.get? name

def meets (value : Json) (filter : Filter) : Bool :=
  filter.all fun condition => (filtered? value condition.1).bind Json.text? == some condition.2

/-- The fully qualified name of the entity that a request asks for. -/
def requestedName (request : CreateRequest) : Except CatalogError String :=
  match request with
  | .testSuite suite => .ok suite.name
  | .testCase testCase => testCaseName testCase.name testCase.entityLink

/-- The document of the entity that a request asks for. -/
def requestedEntity (request : CreateRequest) (id : Uuid) (fqn : String) : Json :=
  match request with
  | .testSuite suite =>
      TestSuite.toJson
        { id, name := suite.name, fullyQualifiedName := some fqn,
          description := suite.description }
  | .testCase testCase =>
      TestCase.toJson
        { id, name := testCase.name, fullyQualifiedName := some fqn,
          description := testCase.description, entityLink := testCase.entityLink,
          testSuite := testCase.testSuite, testDefinition := testCase.testDefinition,
          parameterValues := testCase.parameterValues }

/-- Keeps the entity of a request under a name. One that is there already keeps its identifier;
a new one draws the next and is remembered as created. -/
def store (catalog : MemoryCatalog) (request : CreateRequest) (fqn : String) :
    Json × MemoryCatalog :=
  let kind := request.kind
  let (id, catalog') :=
    match catalog.existingId? kind fqn with
    | some id => (id, catalog)
    | none => (catalog.supply catalog.drawn, { catalog with drawn := catalog.drawn + 1 })
  let value := requestedEntity request id fqn
  let stored := catalog'.put kind fqn value
  (value,
    if (catalog.find? kind fqn).isSome then stored
    else { stored with created := stored.created ++ [(kind, fqn)] })

/-- Creates an entity or brings it up to date. -/
def createOrUpdate (catalog : MemoryCatalog) (request : CreateRequest) :
    Except CatalogError Json × MemoryCatalog :=
  if catalog.closed then (.error .closed, catalog)
  else if request.name ∈ catalog.refusing then
    (.error (.refused 400 s!"rejected create of {request.name}"), catalog)
  else
    match requestedName request with
    | .error e => (.error e, catalog)
    | .ok fqn =>
        let (value, catalog') := catalog.store request fqn
        (.ok value, catalog')

def addResult (catalog : MemoryCatalog) (name : String) (result : TestCaseResult) :
    Except CatalogError Unit × MemoryCatalog :=
  if catalog.closed then (.error .closed, catalog)
  else if (catalog.find? .testCase name).isNone then
    (.error (.notFound .testCase name), catalog)
  else (.ok (), { catalog with results := catalog.results ++ [(name, result)] })

def whileOpen {α : Type} (catalog : MemoryCatalog) (answer : Except CatalogError α) :
    Except CatalogError α × MemoryCatalog :=
  (if catalog.closed then .error .closed else answer, catalog)

def connectionOf (service : DatabaseService) : Except CatalogError ServiceConnection :=
  match service.connection with
  | some connection => .ok connection
  | none => .error (.missingConnection service.name)

/-- The client of a catalog in memory. Fields make no difference, since entities are kept
whole. -/
def client : CatalogClient MemoryCatalog where
  name := "in-memory"
  getByName kind name _ := .ofState fun catalog =>
    catalog.whileOpen (.ok (catalog.find? kind name))
  listEntities kind _ filter := .ofState fun catalog =>
    catalog.whileOpen
      (.ok (((catalog.entities kind).map (·.2)).filter fun value => meets value filter))
  createOrUpdate request := .ofState fun catalog => catalog.createOrUpdate request
  retrieveConnection service _ := .ofState fun catalog => catalog.whileOpen (connectionOf service)
  addResult name result := .ofState fun catalog => catalog.addResult name result
  close := .ofState fun catalog => (.ok (), { catalog with closed := true })

end MemoryCatalog

end DataQuality

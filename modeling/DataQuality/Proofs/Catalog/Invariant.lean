import DataQuality.Proofs.Catalog.Documents
import DataQuality.Proofs.Catalog.MemoryClient

/-!
# The invariant of a catalog in memory

However a catalog in memory is used, what it keeps can be read as entities that belong under their
keys, what it remembers as created is there and is remembered once, and nothing that it keeps is
ever lost. A request for an entity is answered with what is then found under its name; an entity
that was there before keeps its identifier.
-/

namespace DataQuality

namespace MemoryCatalog

/-! ## Documents -/

/-- A value that can be read as an entity of a type, and the key of that entity. -/
def DecodesAs (α : Type) [Entity α] (key : String) (value : Json) : Prop :=
  ∃ entity : α, Entity.ofJson value = .ok entity ∧ Entity.key entity = key

/-- A value that can be read as an entity of a kind, and the key of that entity. -/
def Decodes : EntityKind → String → Json → Prop
  | .testSuite => DecodesAs TestSuite
  | .testCase => DecodesAs TestCase
  | .testDefinition => DecodesAs TestDefinition
  | .table => DecodesAs Table
  | .databaseService => DecodesAs DatabaseService

variable {kind : EntityKind} {key : String} {value : Json}

theorem Document.decodes (h : Document kind key value) : Decodes kind key value := by
  cases h with
  | testSuite suite => exact ⟨suite, TestSuite.reads suite, rfl⟩
  | testCase testCase => exact ⟨testCase, TestCase.reads testCase, rfl⟩
  | testDefinition definition => exact ⟨definition, TestDefinition.reads definition, rfl⟩
  | table table =>
      obtain ⟨columns, profilerConfig, partition, profile, hread⟩ := table.exists_read
      exact ⟨_, hread, rfl⟩
  | databaseService service =>
      obtain ⟨connection, hread⟩ := service.exists_read
      exact ⟨_, hread, rfl⟩

/-- Every document gives the identifier of its entity. -/
theorem Document.exists_id (h : Document kind key value) :
    ∃ id : Uuid, value.get? "id" = some id.toJson := by
  cases h with
  | testSuite suite => exact ⟨suite.id, rfl⟩
  | testCase testCase => exact ⟨testCase.id, rfl⟩
  | testDefinition definition => exact ⟨definition.id, rfl⟩
  | table table => exact ⟨table.id, rfl⟩
  | databaseService service => exact ⟨service.id, rfl⟩

theorem get?_id_requestedEntity (request : CreateRequest) (id : Uuid) (fqn : String) :
    (requestedEntity request id fqn).get? "id" = some id.toJson := by
  cases request with
  | testSuite suite => rfl
  | testCase testCase => rfl

theorem get?_fullyQualifiedName_requestedEntity (request : CreateRequest) (id : Uuid)
    (fqn : String) :
    (requestedEntity request id fqn).get? "fullyQualifiedName" = some (.string fqn) := by
  cases request with
  | testSuite suite => rfl
  | testCase testCase => rfl

/-! ## What a request can do -/

variable {catalog : MemoryCatalog}

/-- What is stored under a name that is taken has the identifier of what stood there. -/
theorem WellFormed.store_again (h : catalog.WellFormed) {request : CreateRequest} {fqn : String}
    {previous : Json} (hfind : catalog.find? request.kind fqn = some previous) :
    ∃ id : Uuid, previous.get? "id" = some id.toJson ∧
      catalog.store request fqn =
        (requestedEntity request id fqn,
          catalog.put request.kind fqn (requestedEntity request id fqn)) := by
  obtain ⟨id, hid⟩ := (h.document _ _ _ hfind).exists_id
  have hexisting : catalog.existingId? request.kind fqn = some id := by
    simp only [existingId?, hfind, Option.bind_some, hid]
    rw [Uuid.reads id]
    rfl
  refine ⟨id, hid, ?_⟩
  simp only [store, hexisting, hfind, Option.isSome_some, if_true]

/-- What a request leaves under a name: an entity that stood there keeps its identifier, and a new
one is remembered as created. -/
structure Updates (before : MemoryCatalog) (kind : EntityKind) (fqn : String) (value : Json)
    (after : MemoryCatalog) : Prop where
  kept : ∀ previous, before.find? kind fqn = some previous →
    after.created = before.created ∧
      ∃ id : Uuid, previous.get? "id" = some id.toJson ∧ value.get? "id" = some id.toJson
  added : before.find? kind fqn = none → after.created = before.created ++ [(kind, fqn)]
  named : value.get? "fullyQualifiedName" = some (.string fqn)
  decodes : Decodes kind fqn value
  found : after.find? kind fqn = some value

theorem WellFormed.updates_store (h : catalog.WellFormed) (request : CreateRequest)
    (fqn : String) :
    Updates catalog request.kind fqn (catalog.store request fqn).1
      (catalog.store request fqn).2 := by
  have hput : ∀ id, (catalog.put request.kind fqn (requestedEntity request id fqn)).find?
      request.kind fqn = some (requestedEntity request id fqn) := by
    intro id
    rw [find?_put, if_pos ⟨rfl, rfl⟩]
  cases hfind : catalog.find? request.kind fqn with
  | some previous =>
      obtain ⟨id, hid, hstore⟩ := h.store_again hfind
      rw [hstore]
      refine ⟨?_, ?_, get?_fullyQualifiedName_requestedEntity request id fqn,
        (document_requestedEntity request id fqn).decodes, hput id⟩
      · intro other hother
        rw [hfind] at hother
        cases hother
        exact ⟨rfl, id, hid, get?_id_requestedEntity request id fqn⟩
      · intro hnone
        rw [hfind] at hnone
        cases hnone
  | none =>
      rw [store_new request hfind]
      refine ⟨?_, fun _ => rfl, get?_fullyQualifiedName_requestedEntity request _ fqn,
        (document_requestedEntity request _ fqn).decodes, hput _⟩
      intro previous hprevious
      rw [hfind] at hprevious
      cases hprevious

/-! ## What was created -/

/-- A key that is taken stays taken, whatever is put anywhere. -/
theorem isSome_find?_put {kind' : EntityKind} {key' : String}
    (h : (catalog.find? kind' key').isSome) :
    ((catalog.put kind key value).find? kind' key').isSome := by
  rw [find?_put]
  split
  next => rfl
  next => exact h

theorem isSome_find?_store {request : CreateRequest} {fqn : String}
    (h : (catalog.find? kind key).isSome) :
    ((catalog.store request fqn).2.find? kind key).isSome := by
  obtain ⟨id, drawn, created, -, hstore⟩ := catalog.exists_store request fqn
  rw [hstore]
  exact isSome_find?_put h

/-- The account of what was created: every entry stands for an entity that is there, and none is
repeated. -/
structure Accounted (catalog : MemoryCatalog) : Prop where
  nodup : catalog.created.Nodup
  stored : ∀ entry ∈ catalog.created, (catalog.find? entry.1 entry.2).isSome

theorem Accounted.put (h : catalog.Accounted) (kind : EntityKind) (key : String)
    (value : Json) : (catalog.put kind key value).Accounted where
  nodup := h.nodup
  stored := fun entry hentry => isSome_find?_put (h.stored entry hentry)

/-- An entry is added only for a key that was free, so it was not there before. -/
theorem Accounted.store (h : catalog.Accounted) (hwell : catalog.WellFormed)
    (request : CreateRequest) (fqn : String) : (catalog.store request fqn).2.Accounted := by
  cases hfind : catalog.find? request.kind fqn with
  | some previous =>
      obtain ⟨id, -, hstore⟩ := hwell.store_again hfind
      rw [hstore]
      exact h.put _ _ _
  | none =>
      have hnew : (request.kind, fqn) ∉ catalog.created := by
        intro hmem
        have hstored := h.stored _ hmem
        rw [hfind] at hstored
        cases hstored
      have hupdates := hwell.updates_store request fqn
      have hcreated := hupdates.added hfind
      refine ⟨?_, ?_⟩
      · rw [hcreated, List.nodup_append]
        refine ⟨h.nodup, List.pairwise_singleton _ _, ?_⟩
        intro entry hentry other hother heq
        rw [List.mem_singleton.mp hother] at heq
        exact hnew (heq ▸ hentry)
      · intro entry hentry
        rw [hcreated, List.mem_append] at hentry
        rcases hentry with hentry | hentry
        · exact isSome_find?_store (h.stored entry hentry)
        · rw [List.mem_singleton.mp hentry, hupdates.found]
          rfl

/-- Every catalog that is used through its operations keeps its account in order. -/
theorem Reachable.accounted (h : catalog.Reachable) : catalog.Accounted := by
  induction h with
  | empty supply => exact ⟨List.nodup_nil, fun entry hentry => by cases hentry⟩
  | insert _ _ ih => exact ih.put _ _ _
  | refuse name _ ih => exact ⟨ih.nodup, ih.stored⟩
  | @createOrUpdate catalog request hreachable ih =>
      obtain ⟨e, hrun⟩ | ⟨fqn, -, -, hrun⟩ := catalog.createOrUpdate_cases request
      · rw [hrun]
        exact ih
      · rw [hrun]
        exact ih.store hreachable.wellFormed request fqn
  | @addResult catalog name result _ ih =>
      obtain ⟨e, hrun⟩ | hrun := catalog.addResult_cases name result
      · rw [hrun]
        exact ih
      · rw [hrun]
        exact ⟨ih.nodup, ih.stored⟩
  | close _ ih => exact ⟨ih.nodup, ih.stored⟩

/-! ## Operations -/

/-- An entity of any kind. -/
inductive AnyEntity where
  | testSuite (suite : TestSuite)
  | testCase (testCase : TestCase)
  | testDefinition (definition : TestDefinition)
  | table (table : Table)
  | databaseService (service : DatabaseService)

/-- Keeps an entity of any kind as it is. -/
def insertAny (catalog : MemoryCatalog) : AnyEntity → MemoryCatalog
  | .testSuite suite => catalog.insert suite
  | .testCase testCase => catalog.insert testCase
  | .testDefinition definition => catalog.insert definition
  | .table table => catalog.insert table
  | .databaseService service => catalog.insert service

theorem exists_insertAny (catalog : MemoryCatalog) (entity : AnyEntity) :
    ∃ kind key value, Document kind key value ∧
      catalog.insertAny entity = catalog.put kind key value := by
  cases entity with
  | testSuite suite => exact ⟨_, _, _, .testSuite suite, rfl⟩
  | testCase testCase => exact ⟨_, _, _, .testCase testCase, rfl⟩
  | testDefinition definition => exact ⟨_, _, _, .testDefinition definition, rfl⟩
  | table table => exact ⟨_, _, _, .table table, rfl⟩
  | databaseService service => exact ⟨_, _, _, .databaseService service, rfl⟩

/-- What can be done to a catalog: it can be prepared, and its client can be asked. -/
inductive Operation where
  | insert (entity : AnyEntity)
  | refuse (name : String)
  | getByName (kind : EntityKind) (name : String) (fields : List String)
  | listEntities (kind : EntityKind) (fields : List String) (filter : Filter)
  | createOrUpdate (request : CreateRequest)
  | retrieveConnection (service : DatabaseService) (kind : ServiceKind)
  | addResult (name : String) (result : TestCaseResult)
  | close

/-- The world that an operation leaves. -/
def perform (world : World MemoryCatalog) : Operation → World MemoryCatalog
  | .insert entity => { world with state := world.state.insertAny entity }
  | .refuse name => { world with state := world.state.refuse name }
  | .getByName kind name fields => (Effect.attempt (client.getByName kind name fields) world).2
  | .listEntities kind fields filter =>
      (Effect.attempt (client.listEntities kind fields filter) world).2
  | .createOrUpdate request => (Effect.attempt (client.createOrUpdate request) world).2
  | .retrieveConnection service kind =>
      (Effect.attempt (client.retrieveConnection service kind) world).2
  | .addResult name result => (Effect.attempt (client.addResult name result) world).2
  | .close => (Effect.attempt client.close world).2

def performAll (world : World MemoryCatalog) (operations : List Operation) :
    World MemoryCatalog :=
  operations.foldl perform world

variable {world : World MemoryCatalog}

/-- Keeping an entity puts its document under its key. -/
theorem exists_perform_insert (world : World MemoryCatalog) (entity : AnyEntity) :
    ∃ kind key value, Document kind key value ∧
      (perform world (.insert entity)).state = world.state.put kind key value :=
  world.state.exists_insertAny entity

theorem reachable_perform (h : world.state.Reachable) (operation : Operation) :
    (perform world operation).state.Reachable := by
  cases operation with
  | insert entity =>
      obtain ⟨kind, key, value, hdocument, hinsert⟩ := exists_perform_insert world entity
      rw [hinsert]
      exact .insert h hdocument
  | refuse name => exact .refuse name h
  | getByName kind name fields => exact h
  | listEntities kind fields filter => exact h
  | createOrUpdate request => exact .createOrUpdate request h
  | retrieveConnection service kind => exact h
  | addResult name result => exact .addResult name result h
  | close => exact .close h

theorem reachable_performAll (h : world.state.Reachable) (operations : List Operation) :
    (performAll world operations).state.Reachable := by
  induction operations generalizing world with
  | nil => exact h
  | cons operation rest ih => exact ih (reachable_perform h operation)

/-- No operation takes away what is stored. -/
theorem isSome_find?_perform (h : (world.state.find? kind key).isSome) (operation : Operation) :
    ((perform world operation).state.find? kind key).isSome := by
  cases operation with
  | insert entity =>
      obtain ⟨kind', key', value', -, hinsert⟩ := exists_perform_insert world entity
      rw [hinsert]
      exact isSome_find?_put h
  | refuse name => exact h
  | getByName kind name fields => exact h
  | listEntities kind fields filter => exact h
  | createOrUpdate request =>
      have hstate : (perform world (.createOrUpdate request)).state =
          (world.state.createOrUpdate request).2 := rfl
      obtain ⟨e, hrun⟩ | ⟨fqn, -, -, hrun⟩ := world.state.createOrUpdate_cases request
      · rw [hstate, hrun]
        exact h
      · rw [hstate, hrun]
        exact isSome_find?_store h
  | retrieveConnection service kind => exact h
  | addResult name result =>
      have hstate : (perform world (.addResult name result)).state =
          (world.state.addResult name result).2 := rfl
      obtain ⟨e, hrun⟩ | hrun := world.state.addResult_cases name result
      · rw [hstate, hrun]
        exact h
      · rw [hstate, hrun]
        exact h
  | close => exact h

theorem isSome_find?_performAll (h : (world.state.find? kind key).isSome)
    (operations : List Operation) :
    ((performAll world operations).state.find? kind key).isSome := by
  induction operations generalizing world with
  | nil => exact h
  | cons operation rest ih => exact ih (isSome_find?_perform h operation)

/-! ## The invariant -/

theorem closed_store (request : CreateRequest) (fqn : String) :
    (catalog.store request fqn).2.closed = catalog.closed := by
  obtain ⟨id, drawn, created, -, hstore⟩ := catalog.exists_store request fqn
  rw [hstore]
  rfl

/-- A request that is answered leaves its answer under the name that was asked for. -/
theorem updates_of_createOrUpdate (hwell : world.state.WellFormed) {request : CreateRequest}
    {next : World MemoryCatalog}
    (h : Effect.attempt (client.createOrUpdate request) world = (.ok value, next)) :
    ∃ fqn, requestedName request = .ok fqn ∧
      Updates world.state request.kind fqn value next.state ∧ next.state.closed = false := by
  have hattempt : Effect.attempt (client.createOrUpdate request) world =
      ((world.state.createOrUpdate request).1,
        { world with state := (world.state.createOrUpdate request).2 }) := rfl
  rw [hattempt] at h
  obtain ⟨e, hrun⟩ | ⟨fqn, hopen, hname, hrun⟩ := world.state.createOrUpdate_cases request
  · rw [hrun] at h
    cases h
  · rw [hrun] at h
    cases h
    exact ⟨fqn, hname, hwell.updates_store request fqn, (closed_store request fqn).trans hopen⟩

/-- Whatever is done to an empty catalog: all that it keeps can be read as entities under their
keys, its account of what was created is in order, and what is stored stays so whatever is done
later. A request that is answered updates what stands under the name it asks for, and its answer
is found there. -/
theorem performAll_intact (supply : Nat → Uuid) (journal : List LogLine)
    (operations later : List Operation) :
    let world := performAll ⟨{ supply }, journal⟩ operations
    (∀ kind key value, (key, value) ∈ world.state.entities kind → Decodes kind key value) ∧
    world.state.Accounted ∧
    (∀ kind key, (world.state.find? kind key).isSome →
      ((performAll world later).state.find? kind key).isSome) ∧
    ∀ request value next,
      Effect.attempt (client.createOrUpdate request) world = (.ok value, next) →
        ∃ fqn, requestedName request = .ok fqn ∧
          Updates world.state request.kind fqn value next.state ∧
          ∀ fields, Effect.attempt (client.getByName request.kind fqn fields) next =
            (.ok (some value), next) := by
  intro world
  have hreachable : world.state.Reachable := reachable_performAll (.empty supply) operations
  have hwell := hreachable.wellFormed
  refine ⟨?_, hreachable.accounted, ?_, ?_⟩
  · intro kind key value hmem
    have hfind := (Keyed.mem_iff_find? (hwell.sorted kind)).mp hmem
    exact (hwell.document kind key value hfind).decodes
  · intro kind key hstored
    exact isSome_find?_performAll hstored later
  · intro request value next hattempt
    obtain ⟨fqn, hname, hupdates, hopen⟩ := updates_of_createOrUpdate hwell hattempt
    refine ⟨fqn, hname, hupdates, ?_⟩
    intro fields
    rw [attempt_getByName hopen, hupdates.found]

/-- A suite that is created again keeps its identifier and is remembered once. -/
theorem performAll_intact_again :
    let request := CreateRequest.testSuite ⟨"nightly", none⟩
    let world := performAll ⟨{}, []⟩ [.createOrUpdate request]
    ∃ value next, Effect.attempt (client.createOrUpdate request) world = (.ok value, next) ∧
      value.get? "id" = some (Uuid.ofNat 0).toJson ∧
      next.state.created = [(.testSuite, "nightly")] := by
  intro request world
  have hagain := (performAll_intact Uuid.ofNat [] [.createOrUpdate request] []).2.2.2 request _ _
    rfl
  obtain ⟨fqn, hname, hupdates, -⟩ := hagain
  cases hname
  obtain ⟨hcreated, id, hprevious, hid⟩ := hupdates.kept _ rfl
  -- the first request drew the first identifier of the supply
  have hfirst : some (Uuid.ofNat 0).toJson = some id.toJson := hprevious
  exact ⟨_, _, rfl, hid.trans hfirst.symm, hcreated⟩

end MemoryCatalog

end DataQuality

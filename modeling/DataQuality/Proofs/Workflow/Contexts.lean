import DataQuality.Proofs.Catalog.Documents
import DataQuality.Proofs.Catalog.MemoryClient
import DataQuality.Proofs.FullyQualifiedName

/-!
# Contexts from a catalog in memory

What building the context of a table gives in an open catalog in memory is a function of what the
catalog keeps. A table is found under its whole name, but its service is looked for under the bare
name that the table's name begins with, without the quotes that a name with a dot has where it
stands alone. So the tables of a service with a dot in its name get no context from it.
-/

namespace DataQuality

open FullyQualifiedName

theorem ContextM.attempt_ofCatalog {σ α : Type} (action : CatalogM σ α) (world : World σ) :
    Effect.attempt (ContextM.ofCatalog action) world =
      ((Effect.attempt action world).1.mapError .catalog, (Effect.attempt action world).2) :=
  rfl

/-- The context of a table that was found, with its connection. -/
def TableContext.ofTable (connection : Option ServiceConnection) (table : Table) :
    Except ContextError TableContext :=
  (DataScope.ofTable table).map fun scope => ⟨connection, table, scope⟩

namespace MemoryCatalog

/-! ## The context of a table -/

/-- What a catalog gives under a name, if anything can be read from what stands there. -/
def read? (α : Type) [Entity α] (catalog : MemoryCatalog) (name : String) :
    Except ContextError (Option α) :=
  ((catalog.find? (Entity.kind α) name).mapM (Entity.read α)).mapError .catalog

/-- A catalog gives an entity under a name. -/
def Gives {α : Type} [Entity α] (catalog : MemoryCatalog) (name : String) (entity : α) : Prop :=
  catalog.read? α name = .ok (some entity)

theorem Gives.unique {α : Type} [Entity α] {catalog : MemoryCatalog} {name : String}
    {entity other : α} (h : catalog.Gives name entity) (hother : catalog.Gives name other) :
    entity = other :=
  Option.some.inj (Except.ok.inj (h.symm.trans hother))

/-- The connection of the service that the name of a table begins with. -/
def serviceConnection (catalog : MemoryCatalog) (table : String) :
    Except ContextError ServiceConnection :=
  match service? table with
  | none => .error (.serviceUnresolved table "")
  | some name =>
      catalog.read? DatabaseService name >>= fun
        | none => .error (.serviceUnresolved table name)
        | some service => (connectionOf service).mapError .catalog

def connection? (catalog : MemoryCatalog) (connections : Bool) (table : String) :
    Except ContextError (Option ServiceConnection) :=
  if connections then some <$> catalog.serviceConnection table else .ok none

/-- The context of a table in a catalog, or why it has none. -/
def context (catalog : MemoryCatalog) (connections : Bool) (name : String) :
    Except ContextError TableContext :=
  catalog.connection? connections name >>= fun connection =>
    catalog.read? Table name >>= fun
      | none => .error (.tableNotFound name)
      | some table => TableContext.ofTable connection table

variable {world : World MemoryCatalog}

theorem attempt_ofCatalog_find {α : Type} [Entity α] (hopen : world.state.closed = false)
    (name : String) (fields : List String) :
    Effect.attempt (ContextM.ofCatalog (client.find α name fields)) world =
      (world.state.read? α name, world) := by
  rw [ContextM.attempt_ofCatalog, attempt_find hopen]
  rfl

theorem attempt_serviceConnection (hopen : world.state.closed = false) (table : String) :
    Effect.attempt (TableContext.serviceConnection client table) world =
      (world.state.serviceConnection table, world) := by
  unfold TableContext.serviceConnection serviceConnection
  cases service? table with
  | none => rfl
  | some name =>
      simp only [Effect.attempt_bind, attempt_ofCatalog_find hopen]
      cases world.state.read? DatabaseService name with
      | error e => rfl
      | ok found =>
          cases found with
          | none => rfl
          | some service =>
              have hanswer : Effect.attempt (client.retrieveConnection service .databaseService)
                  world = (if world.state.closed then .error .closed else connectionOf service,
                    world) := rfl
              rw [hopen] at hanswer
              exact (ContextM.attempt_ofCatalog _ world).trans (by rw [hanswer]; rfl)

/-- Building a context gives what the catalog determines, and changes nothing. -/
theorem attempt_build (hopen : world.state.closed = false) (connections : Bool) (name : String) :
    Effect.attempt (TableContext.build client connections name) world =
      (world.state.context connections name, world) := by
  have hconnection : Effect.attempt (TableContext.connection? client connections name) world =
      (world.state.connection? connections name, world) := by
    cases connections with
    | false => rfl
    | true =>
        change Effect.attempt (TableContext.serviceConnection client name >>= _) world = _
        rw [Effect.attempt_bind, attempt_serviceConnection hopen, connection?, if_pos rfl]
        cases world.state.serviceConnection name with
        | error e => rfl
        | ok connection => rfl
  rw [TableContext.build, Effect.attempt_bind, hconnection, context]
  cases world.state.connection? connections name with
  | error e => rfl
  | ok connection =>
      simp only [Effect.attempt_bind, attempt_ofCatalog_find hopen]
      cases world.state.read? Table name with
      | error e => rfl
      | ok found =>
          cases found with
          | none => rfl
          | some table =>
              change _ = (TableContext.ofTable connection table, world)
              dsimp only [TableContext.ofTable]
              cases DataScope.ofTable table with
              | error e => rfl
              | ok scope => rfl

/-! ## The service of a table -/

section Service

variable {catalog : MemoryCatalog} {connection : ServiceConnection}

theorem connectionOf_eq_ok_iff {service : DatabaseService} :
    (connectionOf service).mapError ContextError.catalog = .ok connection ↔
      service.connection = some connection := by
  unfold connectionOf
  cases service.connection with
  | none => exact ⟨nofun, nofun⟩
  | some given =>
      exact ⟨fun h => congrArg some (Except.ok.inj h),
        fun h => congrArg Except.ok (Option.some.inj h)⟩

/-- The connection of a table is that of the service under the bare name. -/
theorem serviceConnection_eq_ok_iff {table name : String} (h : service? table = some name) :
    catalog.serviceConnection table = .ok connection ↔
      ∃ service : DatabaseService, catalog.Gives name service ∧
        service.connection = some connection := by
  simp only [serviceConnection, h, Gives]
  cases catalog.read? DatabaseService name with
  | error e => exact ⟨nofun, fun ⟨_, h, _⟩ => nomatch h⟩
  | ok found =>
      cases found with
      | none => exact ⟨nofun, fun ⟨_, h, _⟩ => nomatch h⟩
      | some service =>
          refine connectionOf_eq_ok_iff.trans ⟨fun h => ⟨service, rfl, h⟩, ?_⟩
          rintro ⟨other, hother, hconnection⟩
          cases hother
          exact hconnection

theorem serviceConnection_of_find?_eq_none {table name : String} (h : service? table = some name)
    (hnone : catalog.find? .databaseService name = none) :
    catalog.serviceConnection table = .error (.serviceUnresolved table name) := by
  have hread : catalog.read? DatabaseService name = .ok none := by
    have hkind : catalog.find? (Entity.kind DatabaseService) name = none := hnone
    rw [read?, hkind]
    rfl
  simp only [serviceConnection, h, hread]
  rfl

end Service

/-- A table without a partition has rows to look at. -/
theorem exists_scope {table : Table} (h : table.partition = none) :
    ∃ scope, DataScope.ofTable table = .ok scope := by
  unfold DataScope.ofTable
  rw [h]
  cases table.profileQuery? with
  | none => exact ⟨_, rfl⟩
  | some query => exact ⟨_, rfl⟩

theorem context_of_serviceConnection_error {catalog : MemoryCatalog} {name : String}
    {cause : ContextError} (h : catalog.serviceConnection name = .error cause) :
    catalog.context true name = .error cause := by
  rw [context, connection?, if_pos rfl, h]
  rfl

/-- A table without a partition has a context with a connection if that is the connection of the
table, and only then. -/
theorem exists_context_iff {catalog : MemoryCatalog} {name : String}
    {connection : ServiceConnection} {table : Table} (htable : catalog.Gives name table)
    (hpartition : table.partition = none) :
    (∃ scope, catalog.context true name = .ok ⟨some connection, table, scope⟩) ↔
      catalog.serviceConnection name = .ok connection := by
  obtain ⟨scope, hscope⟩ := exists_scope hpartition
  have hread : catalog.read? Table name = .ok (some table) := htable
  cases hconnection : catalog.serviceConnection name with
  | error cause =>
      rw [context_of_serviceConnection_error hconnection]
      exact ⟨nofun, nofun⟩
  | ok given =>
      have hcontext : catalog.context true name = .ok ⟨some given, table, scope⟩ := by
        simp only [context, connection?, if_pos, hconnection, hread]
        change TableContext.ofTable (some given) table = _
        rw [TableContext.ofTable, hscope]
        rfl
      rw [hcontext]
      constructor
      · rintro ⟨other, h⟩
        cases h
        rfl
      · intro h
        cases h
        exact ⟨scope, rfl⟩

/-- A table gets a context with the connection of its service if the service has no dot in its
name. With a dot the service stands under its name in quotes, but the bare name is asked for: what
counts is another service under the bare name, and if there is none, the table gets no context. -/
theorem build_of_joined_iff {service : DatabaseService} {connection : ServiceConnection}
    {table : Table} {parts : List String} (hopen : world.state.closed = false)
    (hname : service.name ≠ "") (hquotes : ∀ part ∈ service.name :: parts, quote ∉ part.toList)
    (hservice : world.state.Gives (join [service.name]) service)
    (hconnection : service.connection = some connection)
    (htable : world.state.Gives (join (service.name :: parts)) table)
    (hpartition : table.partition = none) :
    ((∃ scope, Effect.attempt (TableContext.build client true (join (service.name :: parts)))
        world = (.ok ⟨some connection, table, scope⟩, world)) ↔
      separator ∉ service.name.toList ∨
        ∃ namesake : DatabaseService, world.state.Gives service.name namesake ∧
          namesake.connection = some connection) ∧
    (world.state.find? .databaseService service.name = none →
      Effect.attempt (TableContext.build client true (join (service.name :: parts))) world =
        (.error (.serviceUnresolved (join (service.name :: parts)) service.name), world)) := by
  have hbare := service?_join hname hquotes
  rw [attempt_build hopen]
  refine ⟨?_, fun hnone => ?_⟩
  · have hgiven : world.state.serviceConnection (join (service.name :: parts)) = .ok connection ↔
        ∃ found : DatabaseService, world.state.Gives service.name found ∧
          found.connection = some connection := serviceConnection_eq_ok_iff hbare
    simp only [Prod.mk.injEq, and_true]
    rw [exists_context_iff htable hpartition, hgiven]
    refine ⟨Or.inr, fun h => ?_⟩
    rcases h with hplain | hnamesake
    · rw [join_singleton_of_notMem hplain] at hservice
      exact ⟨service, hservice, hconnection⟩
    · exact hnamesake
  · rw [context_of_serviceConnection_error (serviceConnection_of_find?_eq_none hbare hnone)]

/-- A service with a dot in its name, of a given connection. -/
def dottedService (fqn : Option String) (connection : String) : DatabaseService :=
  ⟨.ofNat 1, "my.svc", fqn, none, some ⟨.object [("type", .string connection)]⟩⟩

/-- A table of that service. -/
def dottedTable : Table :=
  ⟨.ofNat 2, "orders", some (join ["my.svc", "db", "sch", "orders"]), [], none, none, none⟩

/-- The service and its table, each under its fully qualified name. -/
def dottedServices : MemoryCatalog :=
  let empty : MemoryCatalog := {}
  empty.insert (dottedService (join ["my.svc"]) "Postgres") |>.insert dottedTable

/-- The same, beside another service that stands under the bare name. -/
def namesakeWorld : World MemoryCatalog :=
  ⟨dottedServices.insert (dottedService none "Mysql"), []⟩

/-- Beside its namesake, the service does not lend its connection to its table. -/
theorem build_of_joined_iff_namesake :
    ¬∃ scope, Effect.attempt
        (TableContext.build client true (join ["my.svc", "db", "sch", "orders"])) namesakeWorld =
      (.ok ⟨some ⟨.object [("type", .string "Postgres")]⟩, dottedTable, scope⟩,
        namesakeWorld) := by
  have hservice : namesakeWorld.state.Gives (join ["my.svc"])
      (dottedService (join ["my.svc"]) "Postgres") := rfl
  have hnamesake : namesakeWorld.state.Gives "my.svc" (dottedService none "Mysql") := rfl
  have htable : namesakeWorld.state.Gives (join ("my.svc" :: ["db", "sch", "orders"]))
      dottedTable := rfl
  have hiff := (@build_of_joined_iff namesakeWorld (dottedService (join ["my.svc"]) "Postgres")
    _ _ _ rfl (by decide) (by decide) hservice rfl htable rfl).1
  intro hbuilt
  rcases hiff.mp hbuilt with hplain | ⟨other, hother, hconnection⟩
  · exact hplain (by decide)
  · have hsame : other = dottedService none "Mysql" := hother.unique hnamesake
    rw [hsame] at hconnection
    exact absurd hconnection (by simp [dottedService])

/-- There is a catalog with a service, its connection and an unpartitioned table of it, each under
its fully qualified name, in which the service of the table is not found. -/
theorem exists_service_unresolved :
    ∃ (catalog : MemoryCatalog) (service : DatabaseService) (connection : ServiceConnection)
      (table : Table) (parts : List String),
      catalog.Reachable ∧ catalog.closed = false ∧ service.name ≠ "" ∧ parts ≠ [] ∧
      (∀ part ∈ service.name :: parts, quote ∉ part.toList) ∧
      catalog.Gives (join [service.name]) service ∧ service.connection = some connection ∧
      catalog.Gives (join (service.name :: parts)) table ∧ table.partition = none ∧
      Effect.attempt (TableContext.build client true (join (service.name :: parts)))
          ⟨catalog, []⟩ =
        (.error (.serviceUnresolved (join (service.name :: parts)) service.name),
          ⟨catalog, []⟩) := by
  refine ⟨dottedServices, dottedService (join ["my.svc"]) "Postgres", _, dottedTable,
    ["db", "sch", "orders"], ?_, rfl, by decide, by decide, by decide, rfl, rfl, rfl, rfl, ?_⟩
  · exact .insert (.insert (.empty _) (.databaseService _)) (.table _)
  · have hbare : service? (join ["my.svc", "db", "sch", "orders"]) = some "my.svc" :=
      service?_join (by decide) (by decide)
    have hcontext : dottedServices.context true (join ["my.svc", "db", "sch", "orders"]) =
        .error (.serviceUnresolved (join ["my.svc", "db", "sch", "orders"]) "my.svc") :=
      context_of_serviceConnection_error (serviceConnection_of_find?_eq_none hbare rfl)
    exact (attempt_build rfl true _).trans (congrArg (·, _) hcontext)

end MemoryCatalog

end DataQuality

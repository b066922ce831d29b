import DataQuality.Proofs.Catalog.Invariant
import DataQuality.Proofs.Workflow.Contexts
import DataQuality.Proofs.Workflow.Trace

/-!
# Deriving contexts

When an open catalog in memory gives a table its context, and what stands in the way if it does
not. The connection of the service is settled first, then the table, then the rows to look at; what
fails first is the error. A query of the profiler settings makes the partition irrelevant, and
without connections nothing but the table is asked for.
-/

namespace DataQuality

open FullyQualifiedName

/-! ## Rows to look at -/

/-- The profiler settings of a table have a query, and it is not blank. -/
def Table.Queries (table : Table) (query : String) : Prop :=
  Text.isBlankText query = false ∧
    ∃ config, table.profilerConfig = some config ∧ config.profileQuery = some query

theorem Table.profileQuery?_eq_some_iff {table : Table} {query : String} :
    table.profileQuery? = some query ↔ table.Queries query := by
  simp only [profileQuery?, Option.filter_eq_some_iff, Option.bind_eq_some_iff, Queries,
    Bool.not_eq_true']
  exact and_comm

theorem Table.profileQuery?_eq_none_iff {table : Table} :
    table.profileQuery? = none ↔ ∀ query, ¬table.Queries query := by
  simp only [Option.eq_none_iff_forall_ne_some, ne_eq, profileQuery?_eq_some_iff]

/-- Parts are told apart by time: by units of it, or by when they came in. -/
inductive IntervalType.ByTime : IntervalType → Prop where
  | units : ByTime .timeUnit
  | ingestion : ByTime .ingestionTime

theorem IntervalType.isTimeBased_eq_true_iff {intervalType : IntervalType} :
    intervalType.isTimeBased = true ↔ intervalType.ByTime := by
  constructor
  · intro h
    cases intervalType with
    | timeUnit => exact .units
    | ingestionTime => exact .ingestion
    | integerRange | columnValue | other => cases h
  · rintro (_ | _) <;> rfl

theorem IntervalType.isTimeBased_eq_false_iff {intervalType : IntervalType} :
    intervalType.isTimeBased = false ↔ ¬intervalType.ByTime := by
  rw [← isTimeBased_eq_true_iff, Bool.not_eq_true]

/-- The rows of a table to look at, or why there are none: those of its query alone, or else its
sample, with a partition by time on the first of its columns. -/
inductive DataScope.Answers (table : Table) : Except ContextError DataScope → Prop where
  | query {query : String} : table.Queries query → Answers table (.ok (.custom query))
  | whole : (∀ query, ¬table.Queries query) → table.partition = none →
      Answers table
        (.ok (.rows (table.profilerConfig.bind fun config => config.profileSample) none))
  | recent {partition : TablePartition} {field : String} {others : List String} :
      (∀ query, ¬table.Queries query) → table.partition = some partition →
      partition.intervalType.ByTime → partition.columns = field :: others →
      Answers table
        (.ok (.rows (table.profilerConfig.bind fun config => config.profileSample)
          (some ⟨field, partition.intervalType, 1⟩)))
  | unsupported {partition : TablePartition} :
      (∀ query, ¬table.Queries query) → table.partition = some partition →
      ¬partition.intervalType.ByTime →
      Answers table (.error (.unsupportedPartition
        (table.fullyQualifiedName.getD table.name) partition.intervalType))
  | noColumn {partition : TablePartition} :
      (∀ query, ¬table.Queries query) → table.partition = some partition →
      partition.intervalType.ByTime → partition.columns = [] →
      Answers table (.error (.missingPartitionColumn
        (table.fullyQualifiedName.getD table.name)))

theorem DataScope.answers_ofTable (table : Table) : Answers table (ofTable table) := by
  unfold ofTable
  cases hquery : table.profileQuery? with
  | some query => exact .query (Table.profileQuery?_eq_some_iff.mp hquery)
  | none =>
      have hnone := Table.profileQuery?_eq_none_iff.mp hquery
      cases hpartition : table.partition with
      | none => exact .whole hnone hpartition
      | some partition =>
          cases htime : partition.intervalType.isTimeBased with
          | false =>
              simp only [PartitionFilter.ofPartition, htime]
              exact .unsupported hnone hpartition
                (IntervalType.isTimeBased_eq_false_iff.mp htime)
          | true =>
              have hbyTime := IntervalType.isTimeBased_eq_true_iff.mp htime
              cases hcolumns : partition.columns with
              | nil =>
                  simp only [PartitionFilter.ofPartition, htime, hcolumns]
                  exact .noColumn hnone hpartition hbyTime hcolumns
              | cons field others =>
                  simp only [PartitionFilter.ofPartition, htime, hcolumns]
                  exact .recent hnone hpartition hbyTime hcolumns

theorem DataScope.ofTable_eq_iff {table : Table} {answer : Except ContextError DataScope} :
    ofTable table = answer ↔ Answers table answer := by
  refine ⟨fun h => h ▸ answers_ofTable table, fun h => ?_⟩
  cases h with
  | query hquery => simp only [ofTable, Table.profileQuery?_eq_some_iff.mpr hquery]
  | whole hnone hpartition =>
      simp only [ofTable, Table.profileQuery?_eq_none_iff.mpr hnone, hpartition,
        Table.profileSample?]
  | recent hnone hpartition htime hcolumns =>
      simp [ofTable, Table.profileQuery?_eq_none_iff.mpr hnone, hpartition,
        PartitionFilter.ofPartition, IntervalType.isTimeBased_eq_true_iff.mpr htime, hcolumns,
        PartitionFilter.defaultDays, Table.profileSample?]
  | unsupported hnone hpartition htime =>
      simp [ofTable, Table.profileQuery?_eq_none_iff.mpr hnone, hpartition,
        PartitionFilter.ofPartition, IntervalType.isTimeBased_eq_false_iff.mpr htime, Table.key]
  | noColumn hnone hpartition htime hcolumns =>
      simp [ofTable, Table.profileQuery?_eq_none_iff.mpr hnone, hpartition,
        PartitionFilter.ofPartition, IntervalType.isTimeBased_eq_true_iff.mpr htime, hcolumns,
        Table.key]

/-- A table has rows to look at if it has a query, or no partition, or a partition by time with a
column. -/
theorem DataScope.exists_answers_ok_iff {table : Table} :
    (∃ scope, Answers table (.ok scope)) ↔
      (∃ query, table.Queries query) ∨ table.partition = none ∨
        ∃ partition, table.partition = some partition ∧
          partition.intervalType.ByTime ∧ partition.columns ≠ [] := by
  constructor
  · rintro ⟨scope, hanswers⟩
    cases hanswers with
    | query hquery => exact .inl ⟨_, hquery⟩
    | whole _ hpartition => exact .inr (.inl hpartition)
    | recent _ hpartition htime hcolumns =>
        exact .inr (.inr ⟨_, hpartition, htime, hcolumns ▸ List.cons_ne_nil _ _⟩)
  · intro h
    by_cases hquery : ∃ query, table.Queries query
    · obtain ⟨query, hquery⟩ := hquery
      exact ⟨_, .query hquery⟩
    · have hnone := not_exists.mp hquery
      obtain hpartition | ⟨partition, hpartition, htime, hcolumns⟩ := h.resolve_left hquery
      · exact ⟨_, .whole hnone hpartition⟩
      · obtain ⟨field, others, hcolumns⟩ := List.exists_cons_of_ne_nil hcolumns
        exact ⟨_, .recent hnone hpartition htime hcolumns⟩

/-! ## Services -/

/-- The part that a name begins with. -/
def FullyQualifiedName.leading (name : String) : String :=
  (split name).headD ""

theorem service?_eq_leading (name : String) :
    service? name = if leading name = "" then none else some (leading name) := by
  cases hsplit : split name with
  | nil => exact absurd hsplit (split_ne_nil name)
  | cons first rest =>
      have hleading : leading name = first := by rw [leading, hsplit, List.headD_cons]
      rw [service?_of_split hsplit, hleading]

namespace MemoryCatalog

variable {catalog : MemoryCatalog} {name : String}

/-- What can be read as an entity is given, under the key of that entity. -/
theorem exists_gives_of_decodes {α : Type} [Entity α] {value : Json}
    (hfind : catalog.find? (Entity.kind α) name = some value) (h : DecodesAs α name value) :
    ∃ entity : α, catalog.Gives name entity ∧ Entity.key entity = name := by
  obtain ⟨entity, hread, hkey⟩ := h
  refine ⟨entity, ?_, hkey⟩
  rw [Gives, read?, hfind, Option.mapM_some, Entity.read_of_ofJson hread]
  rfl

/-- A catalog of documents gives what it has under a name. -/
theorem read?_of_decodes {α : Type} [Entity α]
    (h : ∀ value, catalog.find? (Entity.kind α) name = some value → DecodesAs α name value) :
    catalog.read? α name = .ok none ∨ ∃ entity : α, catalog.Gives name entity := by
  cases hfind : catalog.find? (Entity.kind α) name with
  | none =>
      rw [read?, hfind]
      exact .inl rfl
  | some value =>
      obtain ⟨entity, hgives, -⟩ := exists_gives_of_decodes hfind (h value hfind)
      exact .inr ⟨entity, hgives⟩

theorem WellFormed.read?_table (h : catalog.WellFormed) (name : String) :
    catalog.read? Table name = .ok none ∨ ∃ table : Table, catalog.Gives name table :=
  read?_of_decodes fun value hfind => (h.document .table name value hfind).decodes

theorem WellFormed.read?_databaseService (h : catalog.WellFormed) (name : String) :
    catalog.read? DatabaseService name = .ok none ∨
      ∃ service : DatabaseService, catalog.Gives name service :=
  read?_of_decodes fun value hfind => (h.document .databaseService name value hfind).decodes

/-- The service that the name of a table begins with. -/
def Serves (catalog : MemoryCatalog) (name : String) (service : DatabaseService) : Prop :=
  leading name ≠ "" ∧ catalog.Gives (leading name) service

/-- The connection that a context begins with, or why there is none. -/
inductive Connects (catalog : MemoryCatalog) (name : String) :
    Bool → Except ContextError (Option ServiceConnection) → Prop where
  | off : Connects catalog name false (.ok none)
  | on {service : DatabaseService} {connection : ServiceConnection} :
      catalog.Serves name service → service.connection = some connection →
      Connects catalog name true (.ok (some connection))
  | unresolved : (∀ service, ¬catalog.Serves name service) →
      Connects catalog name true (.error (.serviceUnresolved name (leading name)))
  | missing {service : DatabaseService} :
      catalog.Serves name service → service.connection = none →
      Connects catalog name true (.error (.catalog (.missingConnection service.name)))

theorem exists_connects_ok_iff {connections : Bool} :
    (∃ connection, catalog.Connects name connections (.ok connection)) ↔
      connections = false ∨ leading name ≠ "" ∧ ∃ service : DatabaseService,
        catalog.Gives (leading name) service ∧ service.connection.isSome := by
  constructor
  · rintro ⟨connection, hconnects⟩
    cases hconnects with
    | off => exact .inl rfl
    | on hserves hconnection =>
        exact .inr ⟨hserves.1, _, hserves.2, Option.isSome_of_eq_some hconnection⟩
  · rintro (rfl | ⟨hleading, service, hgives, hconnection⟩)
    · exact ⟨none, .off⟩
    · cases connections with
      | false => exact ⟨none, .off⟩
      | true =>
          obtain ⟨connection, hconnection⟩ := Option.isSome_iff_exists.mp hconnection
          exact ⟨some connection, .on ⟨hleading, hgives⟩ hconnection⟩

theorem Serves.serviceConnection {service : DatabaseService} (h : catalog.Serves name service) :
    catalog.serviceConnection name = (connectionOf service).mapError .catalog := by
  have hread : catalog.read? DatabaseService (leading name) = .ok (some service) := h.2
  simp only [MemoryCatalog.serviceConnection, service?_eq_leading, if_neg h.1, hread]
  rfl

theorem WellFormed.serviceConnection_of_not_serves (h : catalog.WellFormed)
    (hnone : ∀ service, ¬catalog.Serves name service) :
    catalog.serviceConnection name = .error (.serviceUnresolved name (leading name)) := by
  by_cases hleading : leading name = ""
  · rw [serviceConnection, service?_eq_leading, if_pos hleading, hleading]
  · obtain hread | ⟨service, hgives⟩ := h.read?_databaseService (leading name)
    · simp only [serviceConnection, service?_eq_leading, if_neg hleading, hread]
      rfl
    · exact absurd ⟨hleading, hgives⟩ (hnone service)

theorem WellFormed.connects (h : catalog.WellFormed) (connections : Bool) (name : String) :
    catalog.Connects name connections (catalog.connection? connections name) := by
  cases connections with
  | false => exact .off
  | true =>
      change catalog.Connects name true (some <$> catalog.serviceConnection name)
      by_cases hserved : ∃ service, catalog.Serves name service
      · obtain ⟨service, hserves⟩ := hserved
        rw [hserves.serviceConnection, connectionOf]
        cases hconnection : service.connection with
        | none => exact .missing hserves hconnection
        | some connection => exact .on hserves hconnection
      · have hnone := not_exists.mp hserved
        rw [h.serviceConnection_of_not_serves hnone]
        exact .unresolved hnone

theorem WellFormed.connection?_eq_iff (h : catalog.WellFormed) {connections : Bool}
    {answer : Except ContextError (Option ServiceConnection)} :
    catalog.connection? connections name = answer ↔ catalog.Connects name connections answer := by
  refine ⟨fun hanswer => hanswer ▸ h.connects connections name, fun hconnects => ?_⟩
  cases hconnects with
  | off => rfl
  | on hserves hconnection =>
      rw [connection?, if_pos rfl, hserves.serviceConnection, connectionOf, hconnection]
      rfl
  | unresolved hnone =>
      rw [connection?, if_pos rfl, h.serviceConnection_of_not_serves hnone]
      rfl
  | missing hserves hconnection =>
      rw [connection?, if_pos rfl, hserves.serviceConnection, connectionOf, hconnection]
      rfl

/-! ## The first obstacle -/

/-- The context of a table, or what first stands in its way: its connection comes before the
table, and the table before its rows. -/
inductive Derives (catalog : MemoryCatalog) (connections : Bool) (name : String) :
    Except ContextError TableContext → Prop where
  | unconnected {e : ContextError} : catalog.Connects name connections (.error e) →
      Derives catalog connections name (.error e)
  | noTable {connection : Option ServiceConnection} :
      catalog.Connects name connections (.ok connection) →
      (∀ table : Table, ¬catalog.Gives name table) →
      Derives catalog connections name (.error (.tableNotFound name))
  | noRows {connection : Option ServiceConnection} {table : Table} {e : ContextError} :
      catalog.Connects name connections (.ok connection) → catalog.Gives name table →
      DataScope.Answers table (.error e) → Derives catalog connections name (.error e)
  | context {connection : Option ServiceConnection} {table : Table} {scope : DataScope} :
      catalog.Connects name connections (.ok connection) → catalog.Gives name table →
      DataScope.Answers table (.ok scope) →
      Derives catalog connections name (.ok ⟨connection, table, scope⟩)

theorem exists_derives_ok_iff {connections : Bool} :
    (∃ context, catalog.Derives connections name (.ok context)) ↔
      (∃ connection, catalog.Connects name connections (.ok connection)) ∧
        ∃ table : Table, catalog.Gives name table ∧
          ∃ scope, DataScope.Answers table (.ok scope) := by
  constructor
  · rintro ⟨context, hderives⟩
    cases hderives with
    | context hconnects hgives hanswers => exact ⟨⟨_, hconnects⟩, _, hgives, _, hanswers⟩
  · rintro ⟨⟨connection, hconnects⟩, table, hgives, scope, hanswers⟩
    exact ⟨_, .context hconnects hgives hanswers⟩

section Stages

variable {connections : Bool} {connection : Option ServiceConnection}

theorem context_of_unconnected {e : ContextError}
    (h : catalog.connection? connections name = .error e) :
    catalog.context connections name = .error e := by
  rw [context, h]
  rfl

theorem context_of_noTable (h : catalog.connection? connections name = .ok connection)
    (hread : catalog.read? Table name = .ok none) :
    catalog.context connections name = .error (.tableNotFound name) := by
  rw [context, h]
  simp only [hread]
  rfl

theorem context_of_table {table : Table}
    (h : catalog.connection? connections name = .ok connection)
    (hgives : catalog.Gives name table) :
    catalog.context connections name =
      (DataScope.ofTable table).map fun scope => ⟨connection, table, scope⟩ := by
  have hread : catalog.read? Table name = .ok (some table) := hgives
  rw [context, h]
  simp only [hread]
  rfl

theorem WellFormed.read?_of_not_gives (h : catalog.WellFormed)
    (hnone : ∀ table : Table, ¬catalog.Gives name table) :
    catalog.read? Table name = .ok none :=
  (h.read?_table name).resolve_right fun ⟨table, hgives⟩ => hnone table hgives

theorem WellFormed.derives (h : catalog.WellFormed) (connections : Bool) (name : String) :
    catalog.Derives connections name (catalog.context connections name) := by
  cases hconnection : catalog.connection? connections name with
  | error e =>
      rw [context_of_unconnected hconnection]
      exact .unconnected (h.connection?_eq_iff.mp hconnection)
  | ok connection =>
      have hconnects := h.connection?_eq_iff.mp hconnection
      obtain hread | ⟨table, hgives⟩ := h.read?_table name
      · rw [context_of_noTable hconnection hread]
        exact .noTable hconnects fun table hgives => nomatch hread.symm.trans hgives
      · rw [context_of_table hconnection hgives]
        have hanswers := DataScope.answers_ofTable table
        cases hscope : DataScope.ofTable table with
        | error e => exact .noRows hconnects hgives (hscope ▸ hanswers)
        | ok scope => exact .context hconnects hgives (hscope ▸ hanswers)

theorem WellFormed.context_eq_iff (h : catalog.WellFormed)
    {answer : Except ContextError TableContext} :
    catalog.context connections name = answer ↔ catalog.Derives connections name answer := by
  refine ⟨fun hanswer => hanswer ▸ h.derives connections name, fun hderives => ?_⟩
  cases hderives with
  | unconnected hconnects => exact context_of_unconnected (h.connection?_eq_iff.mpr hconnects)
  | noTable hconnects hnone =>
      exact context_of_noTable (h.connection?_eq_iff.mpr hconnects) (h.read?_of_not_gives hnone)
  | noRows hconnects hgives hanswers =>
      rw [context_of_table (h.connection?_eq_iff.mpr hconnects) hgives,
        DataScope.ofTable_eq_iff.mpr hanswers]
      rfl
  | context hconnects hgives hanswers =>
      rw [context_of_table (h.connection?_eq_iff.mpr hconnects) hgives,
        DataScope.ofTable_eq_iff.mpr hanswers]
      rfl

end Stages

end MemoryCatalog

/-! ## What is asked for -/

section Traced

variable {σ α : Type}

theorem Event.adds_ofCatalog {events : World σ → List Event}
    {traced : CatalogM (σ × List Event) α} {plain : CatalogM σ α}
    (h : Event.Adds events traced plain) :
    Event.Adds events (ContextM.ofCatalog traced) (ContextM.ofCatalog plain) := by
  intro world trace
  rw [ContextM.attempt_ofCatalog, ContextM.attempt_ofCatalog, h world trace]

/-- Without connections, the table is all that is asked for. -/
theorem TableContext.adds_build_off (client : CatalogClient σ) (name : String) :
    Event.Adds
      (fun world => [.found .table name tableFields
        (Effect.attempt (client.getByName .table name tableFields) world).1])
      (build client.traced false name) (build client false name) := by
  refine (Event.adds_ofCatalog (client.adds_find Table name tableFields)).bind fun found => ?_
  cases found with
  | none => exact .silent (fun _ => rfl) fun _ => rfl
  | some table =>
      dsimp only
      cases DataScope.ofTable table with
      | error e => exact .silent (fun _ => rfl) fun _ => rfl
      | ok scope => exact .silent (fun _ => rfl) fun _ => rfl

end Traced

/-! ## Contexts in a world -/

namespace MemoryCatalog

variable {world : World MemoryCatalog}

/-- Whether a table in an open catalog has a context, and which, or what first stands in its way.
Without connections no service is looked for. -/
theorem build_first_obstacle (hreachable : world.state.Reachable)
    (hopen : world.state.closed = false) (name : String) :
    (∀ connections,
      ((∃ context, Effect.attempt (TableContext.build client connections name) world =
          (.ok context, world)) ↔
        (connections = false ∨ leading name ≠ "" ∧ ∃ service : DatabaseService,
          world.state.Gives (leading name) service ∧ service.connection.isSome) ∧
        ∃ table : Table, world.state.Gives name table ∧
          ((∃ query, table.Queries query) ∨ table.partition = none ∨
            ∃ partition, table.partition = some partition ∧
              partition.intervalType.ByTime ∧ partition.columns ≠ [])) ∧
      ∀ answer final,
        Effect.attempt (TableContext.build client connections name) world = (answer, final) ↔
          world.state.Derives connections name answer ∧ final = world) ∧
    ∀ trace, ∃ answer, world.state.Derives false name answer ∧
      Effect.attempt (TableContext.build client.traced false name) (world.withTrace trace) =
        (answer,
          world.withTrace
            (trace ++ [.found .table name TableContext.tableFields
              (.ok (world.state.find? .table name))])) := by
  refine ⟨fun connections => ?_,
    fun trace => ⟨_, hreachable.wellFormed.derives false name, ?_⟩⟩
  · have hattempt : ∀ answer final,
        Effect.attempt (TableContext.build client connections name) world = (answer, final) ↔
          world.state.Derives connections name answer ∧ final = world := by
      intro answer final
      rw [attempt_build hopen, Prod.mk.injEq, hreachable.wellFormed.context_eq_iff,
        eq_comm (a := world)]
    refine ⟨?_, hattempt⟩
    simp only [hattempt, and_true, exists_derives_ok_iff, exists_connects_ok_iff,
      DataScope.exists_answers_ok_iff]
  · have hasked := TableContext.adds_build_off client name world trace
    simp only [attempt_build hopen, attempt_getByName hopen] at hasked
    exact hasked

/-- A table of a name, with profiler settings and a partition. -/
def partitionedTable (name : String) (config : ProfilerConfig) (partition : TablePartition) :
    Table :=
  ⟨.ofNat 2, name, none, [], some config, some partition, none⟩

/-- A partition that is not one by time. -/
def rangePartition : TablePartition :=
  ⟨["shard"], .integerRange, none⟩

/-- A partition by time, on two columns. -/
def dailyPartition : TablePartition :=
  ⟨["day", "hour"], .ingestionTime, none⟩

/-- A sample with a query. -/
def queriedTable : Table :=
  partitionedTable "svc.a" ⟨some 12.5, "select 1"⟩ rangePartition

def blankTable : Table :=
  partitionedTable "svc.b" ⟨some 12.5, " "⟩ rangePartition

/-- A sample without a query. -/
def sampledTable : Table :=
  partitionedTable "svc.c" ⟨some 12.5, none⟩ dailyPartition

/-- These tables, and no service. -/
def partitionedTables : MemoryCatalog :=
  let empty : MemoryCatalog := {}
  empty.insert queriedTable |>.insert blankTable |>.insert sampledTable

/-- A query hides sample and partition, and a blank one does not. Without a query the sample counts,
with the partition on its first column. The service is missed before any of that. -/
theorem build_first_obstacle_range :
    let world : World MemoryCatalog := ⟨partitionedTables, []⟩
    Effect.attempt (TableContext.build client false "svc.a") world =
        (.ok ⟨none, queriedTable, .custom "select 1"⟩, world) ∧
      Effect.attempt (TableContext.build client false "svc.b") world =
        (.error (.unsupportedPartition "svc.b" .integerRange), world) ∧
      Effect.attempt (TableContext.build client false "svc.c") world =
        (.ok ⟨none, sampledTable, .rows (some 12.5) (some ⟨"day", .ingestionTime, 1⟩)⟩, world) ∧
      Effect.attempt (TableContext.build client true "svc.c") world =
        (.error (.serviceUnresolved "svc.c" "svc"), world) := by
  intro world
  have hreachable : partitionedTables.Reachable :=
    .insert (.insert (.insert (.empty _) (.table _)) (.table _)) (.table _)
  have hopen : world.state.closed = false := rfl
  have hderives (name : String) (connections : Bool) :=
    ((build_first_obstacle hreachable hopen name).1 connections).2
  have hqueried : DataScope.Answers queriedTable (.ok (.custom "select 1")) :=
    .query ⟨by decide, _, rfl, rfl⟩
  have hblank : DataScope.Answers blankTable
      (.error (.unsupportedPartition "svc.b" .integerRange)) := by
    have hnone : ∀ query, ¬blankTable.Queries query := by
      rintro query ⟨hquery, config, hconfig, hgiven⟩
      cases hconfig
      cases hgiven
      exact absurd hquery (by decide)
    have hpartition : blankTable.partition = some rangePartition := rfl
    exact .unsupported hnone hpartition nofun
  have hsampled : DataScope.Answers sampledTable
      (.ok (.rows (some 12.5) (some ⟨"day", .ingestionTime, 1⟩))) := by
    have hnone : ∀ query, ¬sampledTable.Queries query := by
      rintro query ⟨-, config, hconfig, hgiven⟩
      cases hconfig
      cases hgiven
    have hpartition : sampledTable.partition = some dailyPartition := rfl
    have hcolumns : dailyPartition.columns = ["day", "hour"] := rfl
    exact .recent hnone hpartition .ingestion hcolumns
  have hmissed : ∀ service, ¬partitionedTables.Serves "svc.c" service := by
    rintro service ⟨-, hservice⟩
    cases hservice
  exact ⟨(hderives _ _ _ _).mpr ⟨.context .off rfl hqueried, rfl⟩,
    (hderives _ _ _ _).mpr ⟨.noRows .off rfl hblank, rfl⟩,
    (hderives _ _ _ _).mpr ⟨.context .off rfl hsampled, rfl⟩,
    (hderives _ _ _ _).mpr ⟨.unconnected (.unresolved hmissed), rfl⟩⟩

end MemoryCatalog

end DataQuality

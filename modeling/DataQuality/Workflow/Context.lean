import DataQuality.Catalog.Client
import DataQuality.FullyQualifiedName

/-!
# Table contexts

What is needed to test one table: the connection to its service, the table as the catalog
describes it, and the rows to look at. A query of the profiler settings excludes sampling and
partitioning; otherwise a partition has to be one by time, with a column.
-/

namespace DataQuality

/-- A filter on the recent parts of a partitioned table. -/
structure PartitionFilter where
  field : String
  intervalType : IntervalType
  /-- How many days back the filter reaches. -/
  days : Nat
  deriving DecidableEq, Repr

/-- Which rows of a table are looked at. -/
inductive DataScope where
  | custom (query : String)
  | rows (sample : Option Float) (partition : Option PartitionFilter)
  deriving Repr

/-- Why a table has no context. -/
inductive ContextError where
  | unsupportedPartition (table : String) (intervalType : IntervalType)
  | missingPartitionColumn (table : String)
  | serviceUnresolved (table service : String)
  | tableNotFound (table : String)
  | catalog (cause : CatalogError)
  deriving Repr

def ContextError.message : ContextError → String
  | .unsupportedPartition table intervalType =>
      s!"Unsupported partition type {intervalType.name} on table {table}"
  | .missingPartitionColumn table => s!"Partitioned table {table} declares no partition column"
  | .serviceUnresolved table service => s!"Cannot resolve service {service} of table {table}"
  | .tableNotFound table => s!"Table not found: {table}"
  | .catalog cause => s!"Catalog error: {cause.message}"

def PartitionFilter.defaultDays : Nat := 1

/-- The filter on a partition of a table: on its first column, if it is a partition by time. -/
def PartitionFilter.ofPartition (table : String) (partition : TablePartition) :
    Except ContextError PartitionFilter :=
  if !partition.intervalType.isTimeBased then
    .error (.unsupportedPartition table partition.intervalType)
  else
    match partition.columns with
    | [] => .error (.missingPartitionColumn table)
    | field :: _ => .ok ⟨field, partition.intervalType, defaultDays⟩

/-- The rows of a table to look at. -/
def DataScope.ofTable (table : Table) : Except ContextError DataScope :=
  match table.profileQuery? with
  | some query => .ok (.custom query)
  | none =>
      match table.partition with
      | none => .ok (.rows table.profileSample? none)
      | some partition =>
          match PartitionFilter.ofPartition table.key partition with
          | .error e => .error e
          | .ok filter => .ok (.rows table.profileSample? (some filter))

/-- What is needed to test one table. -/
structure TableContext where
  /-- Absent when the source brings its own data. -/
  connection : Option ServiceConnection
  table : Table
  scope : DataScope
  deriving Repr

namespace TableContext

def tableName (context : TableContext) : String := context.table.key

/-- The query that selects the rows to look at. -/
def query? (context : TableContext) : Option String :=
  match context.scope with
  | .custom query => some query
  | .rows _ _ => none

/-- The share of rows to look at. -/
def sample? (context : TableContext) : Option Float :=
  match context.scope with
  | .custom _ => none
  | .rows sample _ => sample

/-- The filter on the parts to look at. -/
def partition? (context : TableContext) : Option PartitionFilter :=
  match context.scope with
  | .custom _ => none
  | .rows _ partition => partition

/-- The settings that are asked for with a table. -/
def tableFields : List String := ["tableProfilerConfig", "tablePartition", "profile", "columns"]

end TableContext

/-- An action that looks for a context. -/
abbrev ContextM (σ : Type) := ExceptT ContextError (Effect σ)

def ContextM.ofCatalog {σ α : Type} (action : CatalogM σ α) : ContextM σ α :=
  ExceptT.adapt ContextError.catalog action

namespace TableContext

variable {σ : Type}

def serviceConnection (client : CatalogClient σ) (table : String) :
    ContextM σ ServiceConnection := do
  match FullyQualifiedName.service? table with
  | none => throw (.serviceUnresolved table "")
  | some name =>
      match ← ContextM.ofCatalog (client.find DatabaseService name ["connection"]) with
      | none => throw (.serviceUnresolved table name)
      | some service => ContextM.ofCatalog (client.retrieveConnection service .databaseService)

def connection? (client : CatalogClient σ) (connections : Bool) (table : String) :
    ContextM σ (Option ServiceConnection) := do
  if connections then
    let connection ← serviceConnection client table
    return some connection
  else return none

/-- The context of a table: its connection first, then the table, then its rows. -/
def build (client : CatalogClient σ) (connections : Bool) (name : String) :
    ContextM σ TableContext := do
  let connection ← connection? client connections name
  match ← ContextM.ofCatalog (client.find Table name tableFields) with
  | none => throw (.tableNotFound name)
  | some table =>
      match DataScope.ofTable table with
      | .error e => throw e
      | .ok scope => return ⟨connection, table, scope⟩

end TableContext

end DataQuality

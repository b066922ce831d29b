import DataQuality.Catalog.Reference
import DataQuality.Text.Basic

/-!
# Tables

A table as the catalog describes it: its columns, how it is to be profiled, how it is
partitioned, and the numbers of its last profile.
-/

namespace DataQuality

/-- How the parts of a partitioned table are told apart. -/
inductive IntervalType where
  | timeUnit
  | integerRange
  | ingestionTime
  | columnValue
  /-- Any way that has no name here. -/
  | other
  deriving DecidableEq, Repr

namespace IntervalType

/-- The word for a way of partitioning. -/
def name : IntervalType → String
  | .timeUnit => "TIME-UNIT"
  | .integerRange => "INTEGER-RANGE"
  | .ingestionTime => "INGESTION-TIME"
  | .columnValue => "COLUMN-VALUE"
  | .other => "OTHER"

/-- The way of partitioning that a word names. -/
def ofName (word : String) : IntervalType :=
  ([timeUnit, integerRange, ingestionTime, columnValue].find? fun t => t.name == word).getD other

/-- Whether parts are told apart by time. -/
def isTimeBased : IntervalType → Bool
  | .timeUnit | .ingestionTime => true
  | _ => false

/-- A way of partitioning in a document. -/
def decoder : Decoder IntervalType := Decoder.variant fun word => some (ofName word)

end IntervalType

structure TablePartition where
  columns : List String
  intervalType : IntervalType
  interval : Option Int64
  deriving DecidableEq, Repr

namespace TablePartition

def decoder : Decoder TablePartition :=
  Decoder.record ["columns", "intervalType", "interval"] fun fields =>
    TablePartition.mk
      <$> fields.defaulted "columns" [] (Decoder.list Decoder.text)
      <*> fields.required "intervalType" IntervalType.decoder
      <*> fields.defaulted "interval" none (Decoder.optional Decoder.int64)

def toJson (partition : TablePartition) : Json :=
  .record
    [("columns", some (.strings partition.columns)),
      ("intervalType", some (.string partition.intervalType.name)),
      ("interval", partition.interval.map fun n => .int n.toInt)]

end TablePartition

/-- Which rows of a table its profile looks at. -/
structure ProfilerConfig where
  profileSample : Option Float
  profileQuery : Option String
  deriving Repr

namespace ProfilerConfig

/-- Profiler settings in a document. -/
def decoder : Decoder ProfilerConfig :=
  Decoder.record ["profileSample", "profileQuery"] fun fields =>
    ProfilerConfig.mk
      <$> fields.defaulted "profileSample" none (Decoder.optional Decoder.float)
      <*> fields.defaulted "profileQuery" none (Decoder.optional Decoder.text)

/-- The document of profiler settings. -/
def toJson (config : ProfilerConfig) : Json :=
  .record
    [("profileSample", config.profileSample.map .ofFloat),
      ("profileQuery", config.profileQuery.map .string)]

end ProfilerConfig

/-- The numbers of a table's profile. -/
structure TableProfile where
  timestamp : Option Int64
  rowCount : Option Float
  columnCount : Option Float
  deriving Repr

namespace TableProfile

def decoder : Decoder TableProfile :=
  Decoder.record ["timestamp", "rowCount", "columnCount"] fun fields =>
    TableProfile.mk
      <$> fields.defaulted "timestamp" none (Decoder.optional Decoder.int64)
      <*> fields.defaulted "rowCount" none (Decoder.optional Decoder.float)
      <*> fields.defaulted "columnCount" none (Decoder.optional Decoder.float)

def toJson (profile : TableProfile) : Json :=
  .record
    [("timestamp", profile.timestamp.map fun n => .int n.toInt),
      ("rowCount", profile.rowCount.map .ofFloat),
      ("columnCount", profile.columnCount.map .ofFloat)]

end TableProfile

/-- The numbers of a column's profile. The least and the greatest value are untyped, since
columns hold values of many types. -/
structure ColumnProfile where
  valuesCount : Option Float
  nullCount : Option Float
  uniqueCount : Option Float
  min : Option Json
  max : Option Json
  deriving Repr

namespace ColumnProfile

def decoder : Decoder ColumnProfile :=
  Decoder.record ["valuesCount", "nullCount", "uniqueCount", "min", "max"] fun fields =>
    ColumnProfile.mk
      <$> fields.defaulted "valuesCount" none (Decoder.optional Decoder.float)
      <*> fields.defaulted "nullCount" none (Decoder.optional Decoder.float)
      <*> fields.defaulted "uniqueCount" none (Decoder.optional Decoder.float)
      <*> fields.defaulted "min" none (Decoder.optional Decoder.value)
      <*> fields.defaulted "max" none (Decoder.optional Decoder.value)

def toJson (profile : ColumnProfile) : Json :=
  .record
    [("valuesCount", profile.valuesCount.map .ofFloat),
      ("nullCount", profile.nullCount.map .ofFloat),
      ("uniqueCount", profile.uniqueCount.map .ofFloat),
      ("min", profile.min),
      ("max", profile.max)]

end ColumnProfile

structure Column where
  name : String
  dataType : Option String
  profile : Option ColumnProfile
  deriving Repr

namespace Column

def decoder : Decoder Column :=
  Decoder.record ["name", "dataType", "profile"] fun fields =>
    Column.mk
      <$> fields.required "name" Decoder.text
      <*> fields.defaulted "dataType" none (Decoder.optional Decoder.text)
      <*> fields.defaulted "profile" none (Decoder.optional ColumnProfile.decoder)

def toJson (column : Column) : Json :=
  .record
    [("name", some (.string column.name)),
      ("dataType", column.dataType.map .string),
      ("profile", column.profile.map ColumnProfile.toJson)]

end Column

structure Table where
  id : Uuid
  name : String
  fullyQualifiedName : Option String
  columns : List Column
  profilerConfig : Option ProfilerConfig
  partition : Option TablePartition
  profile : Option TableProfile
  deriving Repr

namespace Table

def decoder : Decoder Table :=
  Decoder.record
      ["id", "name", "fullyQualifiedName", "columns", "tableProfilerConfig", "tablePartition",
        "profile"] fun fields =>
    Table.mk
      <$> fields.required "id" Uuid.decoder
      <*> fields.required "name" Decoder.text
      <*> fields.defaulted "fullyQualifiedName" none (Decoder.optional Decoder.text)
      <*> fields.defaulted "columns" [] (Decoder.list Column.decoder)
      <*> fields.defaulted "tableProfilerConfig" none (Decoder.optional ProfilerConfig.decoder)
      <*> fields.defaulted "tablePartition" none (Decoder.optional TablePartition.decoder)
      <*> fields.defaulted "profile" none (Decoder.optional TableProfile.decoder)

def toJson (table : Table) : Json :=
  .record
    [("id", some table.id.toJson),
      ("name", some (.string table.name)),
      ("fullyQualifiedName", table.fullyQualifiedName.map .string),
      ("columns", some (.array (table.columns.map Column.toJson))),
      ("tableProfilerConfig", table.profilerConfig.map ProfilerConfig.toJson),
      ("tablePartition", table.partition.map TablePartition.toJson),
      ("profile", table.profile.map TableProfile.toJson)]

/-- The key under which messages and records name a table. -/
def key (table : Table) : String :=
  table.fullyQualifiedName.getD table.name

/-- The share of rows to look at. -/
def profileSample? (table : Table) : Option Float :=
  table.profilerConfig.bind (·.profileSample)

/-- The query that selects the rows to look at; a blank one selects nothing. -/
def profileQuery? (table : Table) : Option String :=
  (table.profilerConfig.bind (·.profileQuery)).filter fun query => !Text.isBlankText query

def column? (table : Table) (name : String) : Option Column :=
  table.columns.find? fun column => column.name == name

end Table

end DataQuality

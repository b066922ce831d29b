import DataQuality.Check.Executor
import DataQuality.Decimal.Reader
import DataQuality.EntityLink

/-!
# Verdicts from profile numbers

The parts that checks are made of: numbers among the parameters of a test case, bounds made of
two of them, and the numbers of a table's or column's profile. Each says what is missing when it
is not there.
-/

namespace DataQuality

/-- The outcome of a check, before it is dated. -/
structure Verdict where
  success : Bool
  message : String
  /-- The numbers that the verdict rests on, under their names. -/
  numbers : List (String × Float)
  deriving Repr

def Verdict.toResult (verdict : Verdict) (timestamp : Int64) : TestCaseResult :=
  { timestamp
    status := if verdict.success then .success else .failed
    result := some verdict.message
    values := verdict.numbers.map fun number => ⟨number.1, Decimal.messageText number.2⟩ }

namespace Check

abbrev Answer (α : Type) := Except ExecutionError α

/-- The number that a text writes, blanks around it apart. -/
def number? (s : String) : Option Float :=
  Decimal.readFloat? (Text.trim s)

def parameter? (testCase : TestCase) (name : String) : Answer (Option Float) :=
  match testCase.parameter? name with
  | none => .ok none
  | some value =>
      match number? value with
      | some x => .ok (some x)
      | none => .error (.invalidParameter testCase.key name value)

def parameter (testCase : TestCase) (name : String) : Answer Float :=
  match parameter? testCase name with
  | .error e => .error e
  | .ok (some x) => .ok x
  | .ok none => .error (.missingParameter testCase.key name)

/-- Bounds, both included; at most one of them may be missing. -/
inductive Bounds where
  | between (least greatest : Float)
  | atLeast (least : Float)
  | atMost (greatest : Float)
  deriving Repr

namespace Bounds

def ofParameters (testCase : TestCase) (low high : String) : Answer Bounds :=
  match parameter? testCase low with
  | .error e => .error e
  | .ok least? =>
      match parameter? testCase high with
      | .error e => .error e
      | .ok greatest? =>
          match least?, greatest? with
          | some least, some greatest => .ok (between least greatest)
          | some least, none => .ok (atLeast least)
          | none, some greatest => .ok (atMost greatest)
          | none, none => .error (.missingParameter testCase.key s!"{low} or {high}")

/-- Whether a number lies within the bounds. -/
def has (bounds : Bounds) (x : Float) : Bool :=
  match bounds with
  | between least greatest => decide (least ≤ x) && decide (x ≤ greatest)
  | atLeast least => decide (least ≤ x)
  | atMost greatest => decide (x ≤ greatest)

def render : Bounds → String
  | between least greatest =>
      s!"[{Decimal.messageText least}, {Decimal.messageText greatest}]"
  | atLeast least => s!"[{Decimal.messageText least}, inf)"
  | atMost greatest => s!"(-inf, {Decimal.messageText greatest}]"

end Bounds

/-- A number of a profile, which has to be there. -/
def present (number : Option Float) (target : String) : Answer Float :=
  match number with
  | some x => .ok x
  | none => .error (.missingProfile target)

/-- The number of rows of a table. -/
def rowCount (context : TableContext) : Answer Float :=
  match context.table.profile with
  | none => .error (.missingProfile context.tableName)
  | some profile => present profile.rowCount s!"row count of {context.tableName}"

/-- The number of columns of a table: by its profile, else by counting those it lists. -/
def columnCount (context : TableContext) : Answer Float :=
  match context.table.profile.bind (·.columnCount) with
  | some count => .ok count
  | none =>
      if context.table.columns.isEmpty then
        .error (.missingProfile s!"column count of {context.tableName}")
      else .ok (Decimal.ofInt context.table.columns.length)

def columnProfile (context : TableContext) (testCase : TestCase) :
    Answer (String × ColumnProfile) :=
  match EntityLink.columnOf? testCase.entityLink with
  | none => .error (.missingColumn testCase.key)
  | some name =>
      match context.table.column? name with
      | none => .error (.columnNotFound context.tableName name)
      | some column =>
          match column.profile with
          | none => .error (.missingProfile s!"{context.tableName}.{name}")
          | some profile => .ok (name, profile)

def metric (count : Option Float) (column name : String) : Answer Float :=
  present count s!"{name} of {column}"

/-- The number that an untyped value of a profile stands for. -/
def valueNumber? : Json → Option Float
  | .int n => some (Decimal.ofInt n)
  | .real x => some x
  | .string s => number? s
  | _ => none

/-- The number of an untyped value of a column's profile. -/
def extreme (value : Option Json) (column name : String) : Answer Float :=
  present (value.bind valueNumber?) s!"numeric {name} of {column}"

end Check

end DataQuality

import DataQuality.Check.Verdict

/-!
# Validators

A validator is the check that a test definition stands for. The registry keeps validators under
the names of their definitions and, as an executor, runs the one that a test case asks for. The
checks here look at nothing but the profile kept with a table.
-/

namespace DataQuality

/-- The check that a test definition stands for. -/
structure Validator where
  /-- The name of the definition. -/
  name : String
  validate : TableContext → TestCase → Except ExecutionError Verdict

namespace Validator

open Check

/-- The number of rows lies within bounds. -/
def rowCountBetween : Validator where
  name := "tableRowCountToBeBetween"
  validate context testCase := do
    let bounds ← Bounds.ofParameters testCase "minValue" "maxValue"
    let rows ← rowCount context
    return {
      success := bounds.has rows
      message :=
        s!"Found {Decimal.messageText rows} rows vs. the expected range {bounds.render}."
      numbers := [("rowCount", rows)] }

/-- The number of rows is the expected one. -/
def rowCountEqual : Validator where
  name := "tableRowCountToEqual"
  validate context testCase := do
    let expected ← parameter testCase "value"
    let rows ← rowCount context
    return {
      success := rows == expected
      message :=
        s!"Found {Decimal.messageText rows} rows vs. the expected {Decimal.messageText expected}."
      numbers := [("rowCount", rows)] }

/-- The number of columns is the expected one. -/
def columnCountEqual : Validator where
  name := "tableColumnCountToEqual"
  validate context testCase := do
    let expected ← parameter testCase "columnCount"
    let columns ← columnCount context
    let found := Decimal.messageText columns
    return {
      success := columns == expected
      message := s!"Found {found} columns vs. the expected {Decimal.messageText expected}."
      numbers := [("columnCount", columns)] }

/-- The number of columns lies within bounds. -/
def columnCountBetween : Validator where
  name := "tableColumnCountToBeBetween"
  validate context testCase := do
    let bounds ← Bounds.ofParameters testCase "minColValue" "maxColValue"
    let columns ← columnCount context
    return {
      success := bounds.has columns
      message :=
        s!"Found {Decimal.messageText columns} columns vs. the expected range {bounds.render}."
      numbers := [("columnCount", columns)] }

def valuesNotNull : Validator where
  name := "columnValuesToBeNotNull"
  validate context testCase := do
    let (column, profile) ← columnProfile context testCase
    let nulls ← metric profile.nullCount column "null count"
    return {
      success := nulls == 0
      message := s!"Found {Decimal.messageText nulls} null values in column {column}."
      numbers := [("nullCount", nulls)] }

/-- All values of a column are different. -/
def valuesUnique : Validator where
  name := "columnValuesToBeUnique"
  validate context testCase := do
    let (column, profile) ← columnProfile context testCase
    let values ← metric profile.valuesCount column "values count"
    let unique ← metric profile.uniqueCount column "unique count"
    let found := Decimal.messageText unique
    return {
      success := values == unique
      message :=
        s!"Found {found} unique values out of {Decimal.messageText values} in column {column}."
      numbers := [("valuesCount", values), ("uniqueCount", unique)] }

/-- The least and the greatest value of a column lie within bounds. -/
def valuesBetween : Validator where
  name := "columnValuesToBeBetween"
  validate context testCase := do
    let bounds ← Bounds.ofParameters testCase "minValue" "maxValue"
    let (column, profile) ← columnProfile context testCase
    let least ← extreme profile.min column "min"
    let greatest ← extreme profile.max column "max"
    let found := s!"min={Decimal.messageText least} and max={Decimal.messageText greatest}"
    return {
      success := bounds.has least && bounds.has greatest
      message := s!"Found {found} in column {column} vs. the expected range {bounds.render}."
      numbers := [("min", least), ("max", greatest)] }

end Validator

/-- Validators under the names of their definitions. -/
structure ValidatorRegistry where
  validators : List Validator := []

namespace ValidatorRegistry

def find? (registry : ValidatorRegistry) (name : String) : Option Validator :=
  registry.validators.find? fun validator => validator.name == name

/-- Adds a validator, in place of one of the same name. -/
def register (registry : ValidatorRegistry) (validator : Validator) : ValidatorRegistry :=
  ⟨registry.validators.filter (fun other => other.name != validator.name) ++ [validator]⟩

def names (registry : ValidatorRegistry) : List String :=
  registry.validators.map (·.name) |>.mergeSort (fun a b => decide (a ≤ b))

def builtin : ValidatorRegistry :=
  ⟨[.rowCountBetween, .rowCountEqual, .columnCountEqual, .columnCountBetween, .valuesNotNull,
    .valuesUnique, .valuesBetween]⟩

def judge (registry : ValidatorRegistry) (context : TableContext) (testCase : TestCase) :
    Except ExecutionError Verdict :=
  match testCase.definitionName? with
  | none => .error (.missingDefinition testCase.key)
  | some name =>
      match registry.find? name with
      | none => .error (.unknownDefinition name)
      | some validator => validator.validate context testCase

def executor {σ : Type} (registry : ValidatorRegistry) (clock : Effect σ Int64) :
    TestExecutor σ where
  name := "validator-registry"
  run context testCase := do
    match registry.judge context testCase with
    | .error e => throw e
    | .ok verdict => return some (verdict.toResult (← clock))

end ValidatorRegistry

end DataQuality

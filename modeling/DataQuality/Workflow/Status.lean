import DataQuality.Document.Decoder
import DataQuality.Decimal.Layout

/-!
# Status of a stage

What became of the keys that a stage of a run was given: which were processed, which failed, and
which gave cause for a warning.
-/

namespace DataQuality

/-- The bookkeeping of one stage. -/
structure Status where
  records : List String := []
  warnings : List String := []
  failures : List String := []
  deriving DecidableEq, Repr

namespace Status

def processed (status : Status) (key : String) : Status :=
  { status with records := status.records ++ [key] }

def warning (status : Status) (key : String) : Status :=
  { status with warnings := status.warnings ++ [key] }

/-- One more failed key. -/
def failure (status : Status) (key : String) : Status :=
  { status with failures := status.failures ++ [key] }

/-- Whether any key failed. -/
def hasFailures (status : Status) : Bool := !status.failures.isEmpty

/-- Whether any key gave cause for a warning. -/
def hasWarnings (status : Status) : Bool := !status.warnings.isEmpty

/-- Whether the stage makes the run fail. -/
def isFailed (status : Status) (strict : Bool) : Bool :=
  status.hasFailures || (strict && status.hasWarnings)

/-- The share of processed keys in percent; all of them when there were none. -/
def successRate (status : Status) : Float :=
  let processed := status.records.length
  let total := processed + status.failures.length
  if total = 0 then Decimal.ofInt 100
  else Decimal.ofInt processed * Decimal.ofInt 100 / Decimal.ofInt total

def lines (status : Status) : List String :=
  [s!"Processed records: {status.records.length}", s!"Warnings: {status.warnings.length}"] ++
    status.warnings.map (fun key => s!"  - {key}") ++
    [s!"Failures: {status.failures.length}"] ++
    status.failures.map (fun key => s!"  - {key}") ++
    [s!"Success rate: {Decimal.onePlaceText status.successRate}%"]

def render (status : Status) : String :=
  "\n".intercalate status.lines

def decoder : Decoder Status :=
  Decoder.record ["records", "warnings", "failures"] fun fields =>
    Status.mk
      <$> fields.required "records" (Decoder.list Decoder.text)
      <*> fields.required "warnings" (Decoder.list Decoder.text)
      <*> fields.required "failures" (Decoder.list Decoder.text)

def toJson (status : Status) : Json :=
  .object
    [("records", .strings status.records),
      ("warnings", .strings status.warnings),
      ("failures", .strings status.failures)]

end Status

end DataQuality

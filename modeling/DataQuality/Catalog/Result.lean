import DataQuality.Document.Decoder

/-!
# Results of test cases

The verdict on a test case, when it was reached, a sentence about it and the numbers it rests on.
-/

namespace DataQuality

/-- A verdict. -/
inductive TestCaseStatus where
  | success
  | failed
  | aborted
  deriving DecidableEq, Repr

namespace TestCaseStatus

/-- The word for a verdict. -/
def name : TestCaseStatus → String
  | .success => "Success"
  | .failed => "Failed"
  | .aborted => "Aborted"

/-- The verdict of a given word. -/
def ofName? (word : String) : Option TestCaseStatus :=
  [success, failed, aborted].find? fun status => status.name == word

theorem ofName?_name (status : TestCaseStatus) : ofName? status.name = some status := by
  cases status <;> decide

/-- A verdict in a document. -/
def decoder : Decoder TestCaseStatus := Decoder.variant ofName?

end TestCaseStatus

/-- A number, as text, on which a verdict rests. -/
structure TestResultValue where
  name : String
  value : String
  deriving DecidableEq, Repr

namespace TestResultValue

/-- A number in a document. -/
def decoder : Decoder TestResultValue :=
  Decoder.record ["name", "value"] fun fields =>
    TestResultValue.mk
      <$> fields.required "name" Decoder.text
      <*> fields.required "value" Decoder.text

/-- The document of a number. -/
def toJson (value : TestResultValue) : Json :=
  .object [("name", .string value.name), ("value", .string value.value)]

end TestResultValue

/-- The result of a test case. The time counts seconds since the start of 1970. -/
structure TestCaseResult where
  timestamp : Int64
  status : TestCaseStatus
  result : Option String
  values : List TestResultValue
  deriving DecidableEq, Repr

namespace TestCaseResult

def decoder : Decoder TestCaseResult :=
  Decoder.record ["timestamp", "testCaseStatus", "result", "testResultValue"] fun fields =>
    TestCaseResult.mk
      <$> fields.required "timestamp" Decoder.int64
      <*> fields.required "testCaseStatus" TestCaseStatus.decoder
      <*> fields.defaulted "result" none (Decoder.optional Decoder.text)
      <*> fields.defaulted "testResultValue" [] (Decoder.list TestResultValue.decoder)

def toJson (result : TestCaseResult) : Json :=
  .record
    [("timestamp", some (.int result.timestamp.toInt)),
      ("testCaseStatus", some (.string result.status.name)),
      ("result", result.result.map .string),
      ("testResultValue", some (.array (result.values.map TestResultValue.toJson)))]

end TestCaseResult

/-- A result together with its test case and table, as a sink takes it. -/
structure ResultRecord where
  testCase : String
  table : String
  result : TestCaseResult
  deriving DecidableEq, Repr

namespace ResultRecord

def decoder : Decoder ResultRecord :=
  Decoder.record ["testCaseFqn", "tableFqn", "testCaseResult"] fun fields =>
    ResultRecord.mk
      <$> fields.required "testCaseFqn" Decoder.text
      <*> fields.required "tableFqn" Decoder.text
      <*> fields.required "testCaseResult" TestCaseResult.decoder

def toJson (record : ResultRecord) : Json :=
  .object
    [("testCaseFqn", .string record.testCase),
      ("tableFqn", .string record.table),
      ("testCaseResult", record.result.toJson)]

end ResultRecord

end DataQuality

import DataQuality.Catalog.TestCase

/-!
# Requests

What a catalog is asked to create or to bring up to date: a suite or a test case.
-/

namespace DataQuality

structure CreateTestSuite where
  name : String
  description : Option String
  deriving DecidableEq, Repr

namespace CreateTestSuite

def decoder : Decoder CreateTestSuite :=
  Decoder.record ["name", "description"] fun fields =>
    CreateTestSuite.mk
      <$> fields.required "name" Decoder.text
      <*> fields.defaulted "description" none (Decoder.optional Decoder.text)

def toJson (request : CreateTestSuite) : Json :=
  .record
    [("name", some (.string request.name)), ("description", request.description.map .string)]

end CreateTestSuite

structure CreateTestCase where
  name : String
  description : Option String
  entityLink : String
  testDefinition : EntityReference
  testSuite : EntityReference
  parameterValues : List Parameter
  deriving DecidableEq, Repr

namespace CreateTestCase

def decoder : Decoder CreateTestCase :=
  Decoder.record
      ["name", "description", "entityLink", "testDefinition", "testSuite", "parameterValues"]
      fun fields =>
    CreateTestCase.mk
      <$> fields.required "name" Decoder.text
      <*> fields.defaulted "description" none (Decoder.optional Decoder.text)
      <*> fields.required "entityLink" Decoder.text
      <*> fields.required "testDefinition" EntityReference.decoder
      <*> fields.required "testSuite" EntityReference.decoder
      <*> fields.defaulted "parameterValues" [] (Decoder.list Parameter.decoder)

def toJson (request : CreateTestCase) : Json :=
  .record
    [("name", some (.string request.name)),
      ("description", request.description.map .string),
      ("entityLink", some (.string request.entityLink)),
      ("testDefinition", some request.testDefinition.toJson),
      ("testSuite", some request.testSuite.toJson),
      ("parameterValues", some (.array (request.parameterValues.map Parameter.toJson)))]

end CreateTestCase

/-- An entity to create or to bring up to date. -/
inductive CreateRequest where
  | testSuite (request : CreateTestSuite)
  | testCase (request : CreateTestCase)
  deriving DecidableEq, Repr

namespace CreateRequest

def kind : CreateRequest → EntityKind
  | .testSuite _ => .testSuite
  | .testCase _ => .testCase

def name : CreateRequest → String
  | .testSuite request => request.name
  | .testCase request => request.name

def toJson : CreateRequest → Json
  | .testSuite request => request.toJson
  | .testCase request => request.toJson

end CreateRequest

end DataQuality

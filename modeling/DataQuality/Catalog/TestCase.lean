import DataQuality.Catalog.Reference
import DataQuality.Json.Writer

/-!
# Test suites, definitions and cases

A test case applies a test definition, with parameters, to the table or column of its link, and
belongs to a suite. Parameters are texts; a number or truth value in a document stands for its
text.
-/

namespace DataQuality

/-- A set of test cases that run together. -/
structure TestSuite where
  id : Uuid
  name : String
  fullyQualifiedName : Option String
  description : Option String
  deriving DecidableEq, Repr

namespace TestSuite

def decoder : Decoder TestSuite :=
  Decoder.record ["id", "name", "fullyQualifiedName", "description"] fun fields =>
    TestSuite.mk
      <$> fields.required "id" Uuid.decoder
      <*> fields.required "name" Decoder.text
      <*> fields.defaulted "fullyQualifiedName" none (Decoder.optional Decoder.text)
      <*> fields.defaulted "description" none (Decoder.optional Decoder.text)

def toJson (suite : TestSuite) : Json :=
  .record
    [("id", some suite.id.toJson),
      ("name", some (.string suite.name)),
      ("fullyQualifiedName", suite.fullyQualifiedName.map .string),
      ("description", suite.description.map .string)]

end TestSuite

/-- What a test case checks. -/
structure TestDefinition where
  id : Uuid
  name : String
  fullyQualifiedName : Option String
  description : Option String
  entityType : Option String
  deriving DecidableEq, Repr

namespace TestDefinition

def decoder : Decoder TestDefinition :=
  Decoder.record ["id", "name", "fullyQualifiedName", "description", "entityType"] fun fields =>
    TestDefinition.mk
      <$> fields.required "id" Uuid.decoder
      <*> fields.required "name" Decoder.text
      <*> fields.defaulted "fullyQualifiedName" none (Decoder.optional Decoder.text)
      <*> fields.defaulted "description" none (Decoder.optional Decoder.text)
      <*> fields.defaulted "entityType" none (Decoder.optional Decoder.text)

def toJson (definition : TestDefinition) : Json :=
  .record
    [("id", some definition.id.toJson),
      ("name", some (.string definition.name)),
      ("fullyQualifiedName", definition.fullyQualifiedName.map .string),
      ("description", definition.description.map .string),
      ("entityType", definition.entityType.map .string)]

end TestDefinition

structure Parameter where
  name : String
  value : String
  deriving DecidableEq, Repr

namespace Parameter

/-- The text that an untyped value gives as a parameter, if it is of a kind that gives one. -/
def textOf? : Json → Option String
  | .string s => some s
  | .int n => some (String.ofList (Decimal.integerText n))
  | .real x => some (Decimal.documentText x)
  | .bool true => some "true"
  | .bool false => some "false"
  | _ => none

/-- The value of a parameter in a document. -/
def valueDecoder : Decoder String := fun datum =>
  match Decoder.value datum with
  | .error e => .error e
  | .ok value =>
      match textOf? value with
      | some s => .ok s
      | none => .error (.parameter value)

def decoder : Decoder Parameter :=
  Decoder.record ["name", "value"] fun fields =>
    Parameter.mk
      <$> fields.required "name" Decoder.text
      <*> fields.required "value" valueDecoder

def toJson (parameter : Parameter) : Json :=
  .object [("name", .string parameter.name), ("value", .string parameter.value)]

end Parameter

/-- The wording of the obstacle that has one of its own. -/
def DecodeError.message? : DecodeError → Option String
  | .parameter got =>
      let text := got.render
      some s!"parameter value must be a string, number or boolean, got {text}"
  | .malformed => none

structure TestCase where
  id : Uuid
  name : String
  fullyQualifiedName : Option String
  description : Option String
  entityLink : String
  testSuite : EntityReference
  testDefinition : EntityReference
  parameterValues : List Parameter
  deriving DecidableEq, Repr

namespace TestCase

def decoder : Decoder TestCase :=
  Decoder.record
      ["id", "name", "fullyQualifiedName", "description", "entityLink", "testSuite",
        "testDefinition", "parameterValues"] fun fields =>
    TestCase.mk
      <$> fields.required "id" Uuid.decoder
      <*> fields.required "name" Decoder.text
      <*> fields.defaulted "fullyQualifiedName" none (Decoder.optional Decoder.text)
      <*> fields.defaulted "description" none (Decoder.optional Decoder.text)
      <*> fields.required "entityLink" Decoder.text
      <*> fields.required "testSuite" EntityReference.decoder
      <*> fields.required "testDefinition" EntityReference.decoder
      <*> fields.defaulted "parameterValues" [] (Decoder.list Parameter.decoder)

def toJson (testCase : TestCase) : Json :=
  .record
    [("id", some testCase.id.toJson),
      ("name", some (.string testCase.name)),
      ("fullyQualifiedName", testCase.fullyQualifiedName.map .string),
      ("description", testCase.description.map .string),
      ("entityLink", some (.string testCase.entityLink)),
      ("testSuite", some testCase.testSuite.toJson),
      ("testDefinition", some testCase.testDefinition.toJson),
      ("parameterValues", some (.array (testCase.parameterValues.map Parameter.toJson)))]

/-- The key of a test case in records of a run: its fully qualified name, or its name when it
has none. -/
def key (testCase : TestCase) : String :=
  testCase.fullyQualifiedName.getD testCase.name

def definitionName? (testCase : TestCase) : Option String :=
  testCase.testDefinition.fullyQualifiedName <|> testCase.testDefinition.name

def parameter? (testCase : TestCase) (name : String) : Option String :=
  (testCase.parameterValues.find? fun parameter => parameter.name == name).map (·.value)

end TestCase

end DataQuality

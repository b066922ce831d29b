import DataQuality.Catalog.Config
import DataQuality.Catalog.TestCase
import DataQuality.EntityLink
import DataQuality.LogLevel

/-!
# Workflow configuration

What a workflow file declares: the service whose tables are tested, the suites and test cases,
where results go, and how the catalog is reached. `validate` names the first violated condition
in the order of the document.
-/

namespace DataQuality

/-- A test case that a workflow file declares. -/
structure TestCaseDeclaration where
  name : String
  definitionName : String
  entityLink : String
  description : Option String
  parameterValues : List Parameter
  deriving DecidableEq, Repr

namespace TestCaseDeclaration

def decoder : Decoder TestCaseDeclaration :=
  Decoder.record ["name", "testDefinitionName", "entityLink", "description", "parameterValues"]
      fun fields =>
    TestCaseDeclaration.mk
      <$> fields.required "name" Decoder.text
      <*> fields.required "testDefinitionName" Decoder.text
      <*> fields.required "entityLink" Decoder.text
      <*> fields.defaulted "description" none (Decoder.optional Decoder.text)
      <*> fields.defaulted "parameterValues" [] (Decoder.list Parameter.decoder)

def toJson (declaration : TestCaseDeclaration) : Json :=
  .record
    [("name", some (.string declaration.name)),
      ("testDefinitionName", some (.string declaration.definitionName)),
      ("entityLink", some (.string declaration.entityLink)),
      ("description", declaration.description.map .string),
      ("parameterValues", some (.array (declaration.parameterValues.map Parameter.toJson)))]

end TestCaseDeclaration

structure SuiteDeclaration where
  name : String
  description : Option String
  testCases : List TestCaseDeclaration
  deriving DecidableEq, Repr

namespace SuiteDeclaration

def decoder : Decoder SuiteDeclaration :=
  Decoder.record ["name", "description", "testCases"] fun fields =>
    SuiteDeclaration.mk
      <$> fields.required "name" Decoder.text
      <*> fields.defaulted "description" none (Decoder.optional Decoder.text)
      <*> fields.defaulted "testCases" [] (Decoder.list TestCaseDeclaration.decoder)

def toJson (declaration : SuiteDeclaration) : Json :=
  .record
    [("name", some (.string declaration.name)),
      ("description", declaration.description.map .string),
      ("testCases", some (.array (declaration.testCases.map TestCaseDeclaration.toJson)))]

end SuiteDeclaration

/-- The service whose tables are tested. -/
structure SourceConfig where
  sourceType : String
  serviceName : String
  deriving DecidableEq, Repr

namespace SourceConfig

def decoder : Decoder SourceConfig :=
  Decoder.record ["type", "serviceName"] fun fields =>
    SourceConfig.mk
      <$> fields.required "type" Decoder.text
      <*> fields.required "serviceName" Decoder.text

def toJson (source : SourceConfig) : Json :=
  .object
    [("type", .string source.sourceType), ("serviceName", .string source.serviceName)]

end SourceConfig

/-- What is to be tested. -/
structure ProcessorConfig where
  processorType : String := "orm-test-runner"
  testSuites : List SuiteDeclaration := []
  deriving DecidableEq, Repr

namespace ProcessorConfig

def suitesDecoder : Decoder (List SuiteDeclaration) :=
  Decoder.record ["testSuites"] fun fields =>
    id <$> fields.defaulted "testSuites" [] (Decoder.list SuiteDeclaration.decoder)

def decoder : Decoder ProcessorConfig :=
  let base : ProcessorConfig := {}
  Decoder.record ["type", "config"] fun fields =>
    ProcessorConfig.mk
      <$> fields.defaulted "type" base.processorType Decoder.text
      <*> fields.defaulted "config" base.testSuites suitesDecoder

def toJson (processor : ProcessorConfig) : Json :=
  .object
    [("type", .string processor.processorType),
      ("config", .object
        [("testSuites", .array (processor.testSuites.map SuiteDeclaration.toJson))])]

end ProcessorConfig

/-- Where results go. -/
structure SinkConfig where
  sinkType : String
  filename : Option String
  deriving DecidableEq, Repr

namespace SinkConfig

/-- The type of a sink that writes to the catalog. -/
def metadata : String := "metadata-rest"

/-- The type of a sink that writes to a file. -/
def file : String := "file"

/-- The file of a sink, one level below it. -/
def filenameDecoder : Decoder (Option String) :=
  Decoder.record ["filename"] fun fields =>
    id <$> fields.defaulted "filename" none (Decoder.optional Decoder.text)

def decoder : Decoder SinkConfig :=
  Decoder.record ["type", "config"] fun fields =>
    SinkConfig.mk
      <$> fields.required "type" Decoder.text
      <*> fields.defaulted "config" none filenameDecoder

def toJson (sink : SinkConfig) : Json :=
  .object
    [("type", .string sink.sinkType),
      ("config", .record [("filename", sink.filename.map .string)])]

end SinkConfig

/-- How a workflow runs. -/
structure WorkflowSettings where
  loggerLevel : LogLevel := .info
  catalog : CatalogConfig := {}
  deriving DecidableEq, Repr

namespace WorkflowSettings

def decoder : Decoder WorkflowSettings :=
  let base : WorkflowSettings := {}
  Decoder.record ["loggerLevel", "openMetadataServerConfig"] fun fields =>
    WorkflowSettings.mk
      <$> fields.defaulted "loggerLevel" base.loggerLevel (Decoder.variant LogLevel.ofName?)
      <*> fields.defaulted "openMetadataServerConfig" base.catalog CatalogConfig.decoder

def toJson (settings : WorkflowSettings) : Json :=
  .object
    [("loggerLevel", .string settings.loggerLevel.name),
      ("openMetadataServerConfig", settings.catalog.toJson)]

end WorkflowSettings

/-- The content of a workflow file. -/
structure WorkflowConfig where
  source : SourceConfig
  processor : ProcessorConfig := {}
  sink : Option SinkConfig := none
  settings : WorkflowSettings := {}
  deriving DecidableEq, Repr

/-- The first violated condition of a configuration. -/
inductive InvalidConfig where
  | blankServiceName
  | blankSuiteName
  | duplicateSuite (suite : String)
  | unnamedTestCase (suite : String)
  | noDefinition (testCase : String)
  | badLink (testCase : String) (cause : EntityLinkError)
  | sinkWithoutFile
  | unknownSink (sinkType : String)
  | catalog (cause : CatalogConfigError)
  deriving DecidableEq, Repr

/-- The wording of a violated condition. -/
def InvalidConfig.message : InvalidConfig → String
  | .blankServiceName => "source.serviceName cannot be empty"
  | .blankSuiteName => "test suite name cannot be empty"
  | .duplicateSuite suite => s!"duplicate test suite {suite}"
  | .unnamedTestCase suite => s!"test case without name in suite {suite}"
  | .noDefinition testCase => s!"test case {testCase} has no testDefinitionName"
  | .badLink testCase cause => s!"test case {testCase}: {cause.message}"
  | .sinkWithoutFile => "file sink requires config.filename"
  | .unknownSink sinkType => s!"unknown sink type {sinkType}"
  | .catalog cause => cause.message

def TestCaseDeclaration.validate (suite : String) (declaration : TestCaseDeclaration) :
    Except InvalidConfig Unit :=
  if Text.isBlankText declaration.name then .error (.unnamedTestCase suite)
  else if Text.isBlankText declaration.definitionName then .error (.noDefinition declaration.name)
  else
    match EntityLink.parse declaration.entityLink with
    | .error cause => .error (.badLink declaration.name cause)
    | .ok _ => .ok ()

namespace WorkflowConfig

def decoder : Decoder WorkflowConfig :=
  Decoder.record ["source", "processor", "sink", "workflowConfig"] fun fields =>
    WorkflowConfig.mk
      <$> fields.required "source" SourceConfig.decoder
      <*> fields.defaulted "processor" {} ProcessorConfig.decoder
      <*> fields.defaulted "sink" none (Decoder.optional SinkConfig.decoder)
      <*> fields.defaulted "workflowConfig" {} WorkflowSettings.decoder

def toJson (config : WorkflowConfig) : Json :=
  .record
    [("source", some config.source.toJson),
      ("processor", some config.processor.toJson),
      ("sink", config.sink.map SinkConfig.toJson),
      ("workflowConfig", some config.settings.toJson)]

def ofSource (sourceType serviceName : String) : WorkflowConfig :=
  { source := ⟨sourceType, serviceName⟩ }

def withTestSuite (config : WorkflowConfig) (suite : SuiteDeclaration) : WorkflowConfig :=
  { config with
    processor := { config.processor with testSuites := config.processor.testSuites ++ [suite] } }

def withSink (config : WorkflowConfig) (sink : SinkConfig) : WorkflowConfig :=
  { config with sink := some sink }

def withCatalog (config : WorkflowConfig) (catalog : CatalogConfig) : WorkflowConfig :=
  { config with settings := { config.settings with catalog } }

def testSuites (config : WorkflowConfig) : List SuiteDeclaration :=
  config.processor.testSuites

/-- The settings of the catalog client. -/
def catalog (config : WorkflowConfig) : CatalogConfig :=
  config.settings.catalog

/-- The types of sources that bring their own data and need no connection. -/
def sampleSources : List String := ["sample-data", "sample-usage"]

/-- Whether the source brings its own data; case does not count. -/
def isSampleSource (config : WorkflowConfig) : Bool :=
  sampleSources.contains (String.ofList (config.source.sourceType.toList.map Char.toLower))

/-- The first violated condition among the test cases of a suite. -/
def validateCases (suite : String) : List TestCaseDeclaration → Except InvalidConfig Unit
  | [] => .ok ()
  | declaration :: rest =>
      match declaration.validate suite with
      | .error e => .error e
      | .ok () => validateCases suite rest

/-- The first violated condition among suites that follow suites of the given names. -/
def validateSuites (seen : List String) : List SuiteDeclaration → Except InvalidConfig Unit
  | [] => .ok ()
  | suite :: rest =>
      if Text.isBlankText suite.name then .error .blankSuiteName
      else if suite.name ∈ seen then .error (.duplicateSuite suite.name)
      else
        match validateCases suite.name suite.testCases with
        | .error e => .error e
        | .ok () => validateSuites (suite.name :: seen) rest

def validateSink : Option SinkConfig → Except InvalidConfig Unit
  | none => .ok ()
  | some sink =>
      if sink.sinkType = SinkConfig.metadata then .ok ()
      else if sink.sinkType = SinkConfig.file then
        match sink.filename with
        | none => .error .sinkWithoutFile
        | some _ => .ok ()
      else .error (.unknownSink sink.sinkType)

/-- Names the first violated condition. -/
def validate (config : WorkflowConfig) : Except InvalidConfig Unit :=
  if Text.isBlankText config.source.serviceName then .error .blankServiceName
  else
    match validateSuites [] config.testSuites with
    | .error e => .error e
    | .ok () =>
        match validateSink config.sink with
        | .error e => .error e
        | .ok () =>
            match config.catalog.validate with
            | .error cause => .error (.catalog cause)
            | .ok () => .ok ()

end WorkflowConfig

end DataQuality

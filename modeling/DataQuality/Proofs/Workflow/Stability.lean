import DataQuality.Proofs.Catalog.Stability
import DataQuality.Workflow.Config
import DataQuality.Workflow.Status

/-!
# Stability of all documents

Configurations and the books of a stage are read back as they were written. With that, decoding is
stable for every type of document that is both read and written: what passes through a program
once, whatever form it came in, is not changed by passing through it again.
-/

namespace DataQuality

open Decoder

theorem LogLevel.ofName?_name (level : LogLevel) : ofName? level.name = some level := by
  cases level <;> decide

theorem Status.reads : Reads decoder toJson := by
  intro status
  refine record_ofJson [("records", some (.strings status.records)),
    ("warnings", some (.strings status.warnings)),
    ("failures", some (.strings status.failures))] (by simp) fun fields hfields => ?_
  have hrecords : fields.required "records" (Decoder.list Decoder.text) = .done status.records :=
    Fields.required_eq reads_strings (hfields _ (by decide))
  have hwarnings : fields.required "warnings" (Decoder.list Decoder.text) =
      .done status.warnings :=
    Fields.required_eq reads_strings (hfields _ (by decide))
  have hfailures : fields.required "failures" (Decoder.list Decoder.text) =
      .done status.failures :=
    Fields.required_eq reads_strings (hfields _ (by decide))
  rw [hrecords, hwarnings, hfailures]
  rfl

/-! ## Configurations -/

theorem TestCaseDeclaration.reads : Reads decoder toJson := by
  intro declaration
  refine record_ofJson _ (by simp) fun fields hfields => ?_
  have hname : fields.required "name" Decoder.text = .done declaration.name :=
    Fields.required_eq reads_text (hfields _ (by decide))
  have hdefinition : fields.required "testDefinitionName" Decoder.text =
      .done declaration.definitionName :=
    Fields.required_eq reads_text (hfields _ (by decide))
  have hlink : fields.required "entityLink" Decoder.text = .done declaration.entityLink :=
    Fields.required_eq reads_text (hfields _ (by decide))
  have hdescription := Fields.optionalText_eq (hfields "description" (by decide))
  have hparameters : fields.defaulted "parameterValues" [] (Decoder.list Parameter.decoder) =
      .done declaration.parameterValues :=
    Fields.defaulted_eq (reads_list Parameter.reads) (hfields _ (by decide))
  rw [hname, hdefinition, hlink, hdescription, hparameters]
  rfl

theorem SuiteDeclaration.reads : Reads decoder toJson := by
  intro declaration
  refine record_ofJson _ (by simp) fun fields hfields => ?_
  have hname : fields.required "name" Decoder.text = .done declaration.name :=
    Fields.required_eq reads_text (hfields _ (by decide))
  have hdescription := Fields.optionalText_eq (hfields "description" (by decide))
  have htestCases : fields.defaulted "testCases" []
      (Decoder.list TestCaseDeclaration.decoder) = .done declaration.testCases :=
    Fields.defaulted_eq (reads_list TestCaseDeclaration.reads) (hfields _ (by decide))
  rw [hname, hdescription, htestCases]
  rfl

theorem SourceConfig.reads : Reads decoder toJson := by
  intro source
  refine record_ofJson [("type", some (.string source.sourceType)),
    ("serviceName", some (.string source.serviceName))] (by simp) fun fields hfields => ?_
  have htype : fields.required "type" Decoder.text = .done source.sourceType :=
    Fields.required_eq reads_text (hfields _ (by decide))
  have hname : fields.required "serviceName" Decoder.text = .done source.serviceName :=
    Fields.required_eq reads_text (hfields _ (by decide))
  rw [htype, hname]
  rfl

/-- The suites stand one level below the processor. -/
theorem ProcessorConfig.reads_suites : Reads suitesDecoder fun suites =>
    .object [("testSuites", .array (suites.map SuiteDeclaration.toJson))] := by
  intro suites
  refine record_ofJson [("testSuites", some (.array (suites.map SuiteDeclaration.toJson)))]
    (by simp) fun fields hfields => ?_
  have hsuites : fields.defaulted "testSuites" [] (Decoder.list SuiteDeclaration.decoder) =
      .done suites :=
    Fields.defaulted_eq (reads_list SuiteDeclaration.reads) (hfields _ (by decide))
  rw [hsuites]
  rfl

theorem ProcessorConfig.reads : Reads decoder toJson := by
  intro processor
  unfold decoder
  refine record_ofJson [("type", some (.string processor.processorType)),
    ("config", some (.object
      [("testSuites", .array (processor.testSuites.map SuiteDeclaration.toJson))]))]
    (by simp) fun fields hfields => ?_
  have htype : ∀ fallback, fields.defaulted "type" fallback Decoder.text =
      .done processor.processorType :=
    fun _ => Fields.defaulted_eq reads_text (hfields _ (by decide))
  have hsuites : ∀ fallback, fields.defaulted "config" fallback suitesDecoder =
      .done processor.testSuites :=
    fun _ => Fields.defaulted_eq reads_suites (hfields _ (by decide))
  rw [htype, hsuites]
  rfl

/-- The file stands one level below the sink. -/
theorem SinkConfig.reads_filename : Reads filenameDecoder fun filename =>
    .record [("filename", filename.map .string)] := by
  intro filename
  refine record_ofJson _ (by simp) fun fields hfields => ?_
  rw [Fields.optionalText_eq (hfields "filename" (by decide))]
  rfl

theorem SinkConfig.reads : Reads decoder toJson := by
  intro sink
  refine record_ofJson [("type", some (.string sink.sinkType)),
    ("config", some (.record [("filename", sink.filename.map .string)]))]
    (by simp) fun fields hfields => ?_
  have htype : fields.required "type" Decoder.text = .done sink.sinkType :=
    Fields.required_eq reads_text (hfields _ (by decide))
  have hfilename : fields.defaulted "config" none filenameDecoder = .done sink.filename :=
    Fields.defaulted_eq reads_filename (hfields _ (by decide))
  rw [htype, hfilename]
  rfl

theorem WorkflowSettings.reads : Reads decoder toJson := by
  intro settings
  unfold decoder
  refine record_ofJson [("loggerLevel", some (.string settings.loggerLevel.name)),
    ("openMetadataServerConfig", some settings.catalog.toJson)] (by simp) fun fields hfields => ?_
  have hlevel : ∀ fallback, fields.defaulted "loggerLevel" fallback
      (Decoder.variant LogLevel.ofName?) = .done settings.loggerLevel :=
    fun _ => Fields.defaulted_eq (reads_variant LogLevel.ofName?_name) (hfields _ (by decide))
  have hcatalog : ∀ fallback, fields.defaulted "openMetadataServerConfig" fallback
      CatalogConfig.decoder = .done settings.catalog :=
    fun _ => Fields.defaulted_eq CatalogConfig.reads (hfields _ (by decide))
  rw [hlevel, hcatalog]
  rfl

theorem WorkflowConfig.reads : Reads decoder toJson := by
  intro config
  refine record_ofJson _ (by simp) fun fields hfields => ?_
  have hsource : fields.required "source" SourceConfig.decoder = .done config.source :=
    Fields.required_eq SourceConfig.reads (hfields _ (by decide))
  have hprocessor : fields.defaulted "processor" {} ProcessorConfig.decoder =
      .done config.processor :=
    Fields.defaulted_eq ProcessorConfig.reads (hfields _ (by decide))
  have hsink := Fields.optional_eq SinkConfig.reads (fun _ => Json.noConfusion)
    (hfields "sink" (by decide))
  have hsettings : fields.defaulted "workflowConfig" {} WorkflowSettings.decoder =
      .done config.settings :=
    Fields.defaulted_eq WorkflowSettings.reads (hfields _ (by decide))
  rw [hsource, hprocessor, hsink, hsettings]
  rfl

/-! ## Every type of document -/

/-- A type whose values are both read from documents and written to them. -/
structure DocumentType where
  Value : Type
  decoder : Decoder Value
  toJson : Value → Json

namespace DocumentType

/-- All of these types: entities and what they consist of, requests, results, settings. -/
def all : List DocumentType :=
  [⟨TestSuite, TestSuite.decoder, TestSuite.toJson⟩,
    ⟨TestCase, TestCase.decoder, TestCase.toJson⟩,
    ⟨TestDefinition, TestDefinition.decoder, TestDefinition.toJson⟩,
    ⟨Table, Table.decoder, Table.toJson⟩,
    ⟨Column, Column.decoder, Column.toJson⟩,
    ⟨ColumnProfile, ColumnProfile.decoder, ColumnProfile.toJson⟩,
    ⟨TableProfile, TableProfile.decoder, TableProfile.toJson⟩,
    ⟨ProfilerConfig, ProfilerConfig.decoder, ProfilerConfig.toJson⟩,
    ⟨TablePartition, TablePartition.decoder, TablePartition.toJson⟩,
    ⟨DatabaseService, DatabaseService.decoder, DatabaseService.toJson⟩,
    ⟨ServiceConnection, ServiceConnection.decoder, ServiceConnection.toJson⟩,
    ⟨EntityReference, EntityReference.decoder, EntityReference.toJson⟩,
    ⟨Parameter, Parameter.decoder, Parameter.toJson⟩,
    ⟨TestResultValue, TestResultValue.decoder, TestResultValue.toJson⟩,
    ⟨TestCaseResult, TestCaseResult.decoder, TestCaseResult.toJson⟩,
    ⟨ResultRecord, ResultRecord.decoder, ResultRecord.toJson⟩,
    ⟨CreateTestSuite, CreateTestSuite.decoder, CreateTestSuite.toJson⟩,
    ⟨CreateTestCase, CreateTestCase.decoder, CreateTestCase.toJson⟩,
    ⟨CatalogConfig, CatalogConfig.decoder, CatalogConfig.toJson⟩,
    ⟨Status, Status.decoder, Status.toJson⟩,
    ⟨TestCaseDeclaration, TestCaseDeclaration.decoder, TestCaseDeclaration.toJson⟩,
    ⟨SuiteDeclaration, SuiteDeclaration.decoder, SuiteDeclaration.toJson⟩,
    ⟨SourceConfig, SourceConfig.decoder, SourceConfig.toJson⟩,
    ⟨ProcessorConfig, ProcessorConfig.decoder, ProcessorConfig.toJson⟩,
    ⟨SinkConfig, SinkConfig.decoder, SinkConfig.toJson⟩,
    ⟨WorkflowSettings, WorkflowSettings.decoder, WorkflowSettings.toJson⟩,
    ⟨WorkflowConfig, WorkflowConfig.decoder, WorkflowConfig.toJson⟩]

/-- Whatever a JSON value is decoded to, what is written for that is decoded to the same. -/
theorem decoder_stable :
    ∀ type ∈ all, ∀ (value : Json) (x : type.Value),
      type.decoder (Datum.ofJson value) = .ok x →
        type.decoder (Datum.ofJson (type.toJson x)) = .ok x := by
  have hstable : ∀ type ∈ all, Stable type.decoder type.toJson := by
    simp only [all, List.forall_mem_cons]
    exact ⟨TestSuite.reads.stable, TestCase.reads.stable, TestDefinition.reads.stable,
      Table.stable, Column.stable, ColumnProfile.stable, TableProfile.stable,
      ProfilerConfig.stable, TablePartition.reads.stable, DatabaseService.stable,
      ServiceConnection.stable, EntityReference.reads.stable, Parameter.reads.stable,
      TestResultValue.reads.stable, TestCaseResult.reads.stable, ResultRecord.reads.stable,
      CreateTestSuite.reads.stable, CreateTestCase.reads.stable, CatalogConfig.reads.stable,
      Status.reads.stable, TestCaseDeclaration.reads.stable, SuiteDeclaration.reads.stable,
      SourceConfig.reads.stable, ProcessorConfig.reads.stable, SinkConfig.reads.stable,
      WorkflowSettings.reads.stable, WorkflowConfig.reads.stable, by simp⟩
  exact fun type hmem value x => hstable type hmem value x

/-- A table with an unknown member, an unknown way of partitioning, a column given as a list, and
an untyped object whose members are not in order beside an untyped `null`. -/
def looseTable : Json :=
  .object
    [("tablePartition", .object [("intervalType", .string "WEEKLY")]),
      ("owner", .object [("name", .null)]),
      ("name", .string "orders"),
      ("fullyQualifiedName", .null),
      ("columns", .array
        [.array
          [.string "id", .null, .object
            [("min", .null), ("max", .object [("b", .int 1), ("a", .array [.int 2])])]]]),
      ("id", (Uuid.ofNat 7).toJson)]

/-- What it is decoded to. -/
def tidyTable : Table where
  id := .ofNat 7
  name := "orders"
  fullyQualifiedName := none
  columns :=
    [⟨"id", none,
      some ⟨none, none, none, none, some (.object [("a", .array [.int 2]), ("b", .int 1)])⟩⟩]
  profilerConfig := none
  partition := some ⟨[], .other, none⟩
  profile := none

theorem decoder_stable_looseTable :
    ⟨Table, Table.decoder, Table.toJson⟩ ∈ all ∧
    Table.decoder (Datum.ofJson looseTable) = .ok tidyTable ∧
    Table.decoder (Datum.ofJson tidyTable.toJson) = .ok tidyTable := by
  have hmem : ⟨Table, Table.decoder, Table.toJson⟩ ∈ all := by simp [all]
  have hdecode : Table.decoder (Datum.ofJson looseTable) = .ok tidyTable := by rfl
  exact ⟨hmem, hdecode, decoder_stable _ hmem looseTable tidyTable hdecode⟩

end DocumentType

end DataQuality

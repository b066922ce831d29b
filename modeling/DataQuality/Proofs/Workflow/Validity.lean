import DataQuality.Proofs.Catalog.Settings
import DataQuality.Proofs.Text
import DataQuality.Workflow.Config
import Mathlib.Data.List.Nodup

/-!
# Configurations that can run

A configuration is accepted exactly if it is well formed: its service is named, its suites are named
and told apart by their names, every test case has a name, a definition and a link that can be read,
its sink is of a known type and complete, and its catalog can be reached by what is set. Otherwise
the first condition that it violates is named, in the order of the document: the service, one suite
after another with the test cases of each, the sink, the catalog.
-/

namespace DataQuality

open Text (Blank isBlankText_iff)

/-! ## Test cases -/

namespace TestCaseDeclaration

structure WellFormed (declaration : TestCaseDeclaration) : Prop where
  named : ¬Blank declaration.name
  defined : ¬Blank declaration.definitionName
  linked : ∃ link, EntityLink.parse declaration.entityLink = .ok link

/-- What is wrong first with a test case of a suite. -/
inductive Violation (suite : String) (declaration : TestCaseDeclaration) :
    InvalidConfig → Prop where
  | unnamed : Blank declaration.name → Violation suite declaration (.unnamedTestCase suite)
  | noDefinition : ¬Blank declaration.name → Blank declaration.definitionName →
      Violation suite declaration (.noDefinition declaration.name)
  | badLink {cause : EntityLinkError} : ¬Blank declaration.name →
      ¬Blank declaration.definitionName → EntityLink.parse declaration.entityLink = .error cause →
      Violation suite declaration (.badLink declaration.name cause)

theorem settles_validate (suite : String) (declaration : TestCaseDeclaration) :
    Settles (declaration.validate suite) declaration.WellFormed (declaration.Violation suite) := by
  have hsteps : declaration.validate suite =
      if Text.isBlankText declaration.name then .error (.unnamedTestCase suite)
      else if Text.isBlankText declaration.definitionName then
        .error (.noDefinition declaration.name)
      else ((EntityLink.parse declaration.entityLink).mapError
        (.badLink declaration.name)) >>= fun _ => pure () := by
    rw [validate]
    cases EntityLink.parse declaration.entityLink <;> rfl
  rw [hsteps]
  refine (Settles.guard (InvalidConfig.unnamedTestCase suite) fun _ =>
    .guard (InvalidConfig.noDefinition declaration.name) fun _ =>
    ((Settles.refl _).mapError _).returns fun _ => ()).congr ?_ fun e => ?_
  · rw [isBlankText_iff, isBlankText_iff]
    exact ⟨fun ⟨hname, hdefinition, hlink⟩ => ⟨hname, hdefinition, hlink⟩,
      fun h => ⟨h.named, h.defined, h.linked⟩⟩
  · rw [isBlankText_iff, isBlankText_iff]
    constructor
    · rintro (⟨hname, rfl⟩ | ⟨hname, ⟨hdefinition, rfl⟩ | ⟨hdefinition, cause, hcause, rfl⟩⟩)
      · exact .unnamed hname
      · exact .noDefinition hname hdefinition
      · exact .badLink hname hdefinition hcause
    · rintro (hname | ⟨hname, hdefinition⟩ | ⟨hname, hdefinition, hcause⟩)
      · exact .inl ⟨hname, rfl⟩
      · exact .inr ⟨hname, .inl ⟨hdefinition, rfl⟩⟩
      · exact .inr ⟨hname, .inr ⟨hdefinition, _, hcause, rfl⟩⟩

end TestCaseDeclaration

/-! ## Suites -/

namespace SuiteDeclaration

structure WellFormed (suite : SuiteDeclaration) : Prop where
  named : ¬Blank suite.name
  testCases : ∀ declaration ∈ suite.testCases, declaration.WellFormed

/-- What is wrong first with a suite that follows suites of the given names. -/
inductive Violation (earlier : List String) (suite : SuiteDeclaration) : InvalidConfig → Prop where
  | unnamed : Blank suite.name → Violation earlier suite .blankSuiteName
  | duplicate : ¬Blank suite.name → suite.name ∈ earlier →
      Violation earlier suite (.duplicateSuite suite.name)
  | testCase {e : InvalidConfig} : ¬Blank suite.name → suite.name ∉ earlier →
      FirstBad TestCaseDeclaration.WellFormed (TestCaseDeclaration.Violation suite.name)
        suite.testCases e →
      Violation earlier suite e

/-- Suites that are well formed and told apart by their names. -/
structure Distinct (suites : List SuiteDeclaration) : Prop where
  wellFormed : ∀ suite ∈ suites, suite.WellFormed
  nodup : (suites.map (·.name)).Nodup

theorem distinct_nil : Distinct [] where
  wellFormed := List.forall_mem_nil _
  nodup := List.nodup_nil

theorem distinct_concat {suites : List SuiteDeclaration} {suite : SuiteDeclaration} :
    Distinct (suites ++ [suite]) ↔
      Distinct suites ∧ suite.WellFormed ∧ suite.name ∉ suites.map (·.name) := by
  have hnodup : ((suites ++ [suite]).map (·.name)).Nodup ↔
      suite.name ∉ suites.map (·.name) ∧ (suites.map (·.name)).Nodup := by
    rw [List.map_append, List.map_singleton, ← List.concat_eq_append, List.nodup_concat]
  constructor
  · intro h
    obtain ⟨hwell, hsuite⟩ := List.forall_mem_append.mp h.wellFormed
    obtain ⟨hfresh, hdistinct⟩ := hnodup.mp h.nodup
    exact ⟨⟨hwell, hdistinct⟩, List.forall_mem_singleton.mp hsuite, hfresh⟩
  · rintro ⟨h, hsuite, hfresh⟩
    exact ⟨List.forall_mem_append.mpr ⟨h.wellFormed, List.forall_mem_singleton.mpr hsuite⟩,
      hnodup.mpr ⟨hfresh, h.nodup⟩⟩

theorem Distinct.of_append {before after : List SuiteDeclaration} (h : Distinct (before ++ after)) :
    Distinct before where
  wellFormed suite hsuite := h.wellFormed suite (List.mem_append_left after hsuite)
  nodup := by
    have hnodup := h.nodup
    rw [List.map_append] at hnodup
    exact hnodup.of_append_left

/-- What is wrong first with suites that follow others: the first that is not distinct from what
is before it. -/
def FirstViolation (before suites : List SuiteDeclaration) (e : InvalidConfig) : Prop :=
  ∃ between suite after, suites = between ++ suite :: after ∧ Distinct (before ++ between) ∧
    suite.Violation ((before ++ between).map (·.name)) e

theorem FirstViolation.distinct {before suites : List SuiteDeclaration} {e : InvalidConfig}
    (h : FirstViolation before suites e) : Distinct before :=
  h.elim fun _ ⟨_, _, _, hbetween, _⟩ => hbetween.of_append

theorem not_firstViolation_nil {before : List SuiteDeclaration} {e : InvalidConfig} :
    ¬FirstViolation before [] e := by
  rintro ⟨between, suite, after, hsplit, -⟩
  exact absurd hsplit.symm
    (List.append_ne_nil_of_right_ne_nil between (List.cons_ne_nil suite after))

theorem firstViolation_cons {before rest : List SuiteDeclaration} {suite : SuiteDeclaration}
    {e : InvalidConfig} (hbefore : Distinct before) : FirstViolation before (suite :: rest) e ↔
      suite.Violation (before.map (·.name)) e ∨ FirstViolation (before ++ [suite]) rest e := by
  constructor
  · rintro ⟨between, found, after, hsplit, hbetween, hfound⟩
    cases between with
    | nil =>
        cases hsplit
        rw [List.append_nil] at hfound
        exact .inl hfound
    | cons first between =>
        cases hsplit
        rw [List.append_cons] at hbetween hfound
        exact .inr ⟨between, found, after, rfl, hbetween, hfound⟩
  · rintro (hsuite | ⟨between, found, after, rfl, hbetween, hfound⟩)
    · exact ⟨[], suite, rest, rfl, by rwa [List.append_nil], by rwa [List.append_nil]⟩
    · rw [← List.append_cons] at hbetween hfound
      exact ⟨suite :: between, found, after, rfl, hbetween, hfound⟩

end SuiteDeclaration

namespace WorkflowConfig

theorem settles_validateCases (suite : String) (declarations : List TestCaseDeclaration) :
    Settles (validateCases suite declarations)
      (∀ declaration ∈ declarations, declaration.WellFormed)
      (FirstBad TestCaseDeclaration.WellFormed (TestCaseDeclaration.Violation suite)
        declarations) := by
  refine Settles.walk (TestCaseDeclaration.settles_validate suite) rfl
    (fun declaration rest => ?_) declarations
  rw [validateCases]
  cases declaration.validate suite <;> rfl

/-- The first violated condition of one suite that follows suites of the given names. -/
def validateSuite (seen : List String) (suite : SuiteDeclaration) : Except InvalidConfig Unit :=
  if Text.isBlankText suite.name then .error .blankSuiteName
  else if suite.name ∈ seen then .error (.duplicateSuite suite.name)
  else validateCases suite.name suite.testCases

theorem validateSuites_cons (seen : List String) (suite : SuiteDeclaration)
    (rest : List SuiteDeclaration) : validateSuites seen (suite :: rest) =
      validateSuite seen suite >>= fun _ => validateSuites (suite.name :: seen) rest := by
  rw [validateSuites, validateSuite]
  split
  next => rfl
  next =>
    split
    next => rfl
    next => cases validateCases suite.name suite.testCases <;> rfl

/-- Of the names that were seen it counts only which ones they are. -/
theorem settles_validateSuite {seen earlier : List String}
    (hseen : ∀ name, name ∈ seen ↔ name ∈ earlier) (suite : SuiteDeclaration) :
    Settles (validateSuite seen suite) (suite.WellFormed ∧ suite.name ∉ earlier)
      (suite.Violation earlier) := by
  refine (Settles.guard InvalidConfig.blankSuiteName fun _ =>
    .guard (InvalidConfig.duplicateSuite suite.name) fun _ =>
    settles_validateCases suite.name suite.testCases).congr ?_ fun e => ?_
  · rw [isBlankText_iff, hseen]
    exact ⟨fun ⟨hnamed, hfresh, hcases⟩ => ⟨⟨hnamed, hcases⟩, hfresh⟩,
      fun ⟨hsuite, hfresh⟩ => ⟨hsuite.named, hfresh, hsuite.testCases⟩⟩
  · rw [isBlankText_iff, hseen]
    constructor
    · rintro (⟨hblank, rfl⟩ | ⟨hnamed, ⟨hmem, rfl⟩ | ⟨hfresh, hcase⟩⟩)
      · exact .unnamed hblank
      · exact .duplicate hnamed hmem
      · exact .testCase hnamed hfresh hcase
    · rintro (hblank | ⟨hnamed, hmem⟩ | ⟨hnamed, hfresh, hcase⟩)
      · exact .inl ⟨hblank, rfl⟩
      · exact .inr ⟨hnamed, .inl ⟨hmem, rfl⟩⟩
      · exact .inr ⟨hnamed, .inr ⟨hfresh, hcase⟩⟩

theorem settles_validateSuites (seen : List String) (before : List SuiteDeclaration)
    (hseen : ∀ name, name ∈ seen ↔ name ∈ before.map (·.name))
    (hbefore : SuiteDeclaration.Distinct before) (suites : List SuiteDeclaration) :
    Settles (validateSuites seen suites) (SuiteDeclaration.Distinct (before ++ suites))
      (SuiteDeclaration.FirstViolation before suites) := by
  induction suites generalizing seen before with
  | nil =>
      rw [List.append_nil]
      exact (Settles.ok ()).congr (iff_of_true trivial hbefore) fun e =>
        iff_of_false id SuiteDeclaration.not_firstViolation_nil
  | cons suite rest ih =>
      have hsuite := settles_validateSuite hseen suite
      have hrest : ∀ answer, validateSuite seen suite = .ok answer →
          Settles (validateSuites (suite.name :: seen) rest)
            (SuiteDeclaration.Distinct (before ++ suite :: rest))
            (SuiteDeclaration.FirstViolation (before ++ [suite]) rest) := by
        intro answer hok
        rw [List.append_cons]
        refine ih _ _ (fun name => ?_)
          (SuiteDeclaration.distinct_concat.mpr ⟨hbefore, hsuite.ok_iff.mp ⟨answer, hok⟩⟩)
        rw [List.map_append, List.mem_append, List.mem_cons, hseen name, or_comm,
          List.map_singleton, List.mem_singleton]
      rw [validateSuites_cons]
      refine (hsuite.bind hrest).congr (and_iff_right_of_imp fun hdistinct => ?_) fun e => ?_
      · rw [List.append_cons] at hdistinct
        exact (SuiteDeclaration.distinct_concat.mp hdistinct.of_append).2
      · rw [SuiteDeclaration.firstViolation_cons hbefore]
        exact or_congr_right (and_iff_right_of_imp fun hlater =>
          (SuiteDeclaration.distinct_concat.mp hlater.distinct).2)

end WorkflowConfig

/-! ## Sinks -/

namespace SinkConfig

/-- The type of the sink is known, and a sink that writes to a file has one. -/
def WellFormed (sink : SinkConfig) : Prop :=
  sink.sinkType = metadata ∨ sink.sinkType = file ∧ sink.filename ≠ none

inductive Violation (sink : SinkConfig) : InvalidConfig → Prop where
  | noFile : sink.sinkType = file → sink.filename = none → Violation sink .sinkWithoutFile
  | unknown : sink.sinkType ≠ metadata → sink.sinkType ≠ file →
      Violation sink (.unknownSink sink.sinkType)

theorem settles_validateSink (sink : SinkConfig) :
    Settles (WorkflowConfig.validateSink (some sink)) sink.WellFormed sink.Violation := by
  have hfile : file ≠ metadata := by decide
  have hsteps : WorkflowConfig.validateSink (some sink) =
      if sink.sinkType = metadata then .ok ()
      else if sink.sinkType = file then
        if sink.filename = none then .error .sinkWithoutFile else .ok ()
      else .error (.unknownSink sink.sinkType) := by
    rw [WorkflowConfig.validateSink]
    cases sink.filename <;> rfl
  rw [hsteps]
  refine (Settles.ite (fun _ => .ok ()) fun _ => .ite (fun _ =>
    .guard InvalidConfig.sinkWithoutFile fun _ => .ok ()) fun _ =>
    .error (InvalidConfig.unknownSink sink.sinkType)).congr ?_ fun e => ?_
  · rw [and_true, and_true, and_false, or_false]
    exact or_congr_right' fun hmetadata => and_iff_right hmetadata
  · constructor
    · rintro (⟨-, ⟨⟩⟩ | ⟨hmetadata, ⟨hsink, ⟨hnone, rfl⟩ | ⟨-, ⟨⟩⟩⟩ | ⟨hsink, rfl⟩⟩)
      · exact .noFile hsink hnone
      · exact .unknown hmetadata hsink
    · rintro (⟨hsink, hnone⟩ | ⟨hmetadata, hsink⟩)
      · exact .inr ⟨hsink ▸ hfile, .inl ⟨hsink, .inl ⟨hnone, rfl⟩⟩⟩
      · exact .inr ⟨hmetadata, .inr ⟨hsink, rfl⟩⟩

end SinkConfig

/-! ## Workflows -/

namespace WorkflowConfig

variable {config : WorkflowConfig}

structure WellFormed (config : WorkflowConfig) : Prop where
  service : ¬Blank config.source.serviceName
  suites : SuiteDeclaration.Distinct config.processor.testSuites
  sink : ∀ sink ∈ config.sink, sink.WellFormed
  catalog : config.settings.catalog.WellFormed

/-- The first condition in the order of the document that a configuration violates. -/
inductive FirstViolation (config : WorkflowConfig) : InvalidConfig → Prop where
  | service : Blank config.source.serviceName → FirstViolation config .blankServiceName
  | suite {before after : List SuiteDeclaration} {suite : SuiteDeclaration} {e : InvalidConfig} :
      ¬Blank config.source.serviceName →
      config.processor.testSuites = before ++ suite :: after →
      SuiteDeclaration.Distinct before → suite.Violation (before.map (·.name)) e →
      FirstViolation config e
  | sink {sink : SinkConfig} {e : InvalidConfig} : ¬Blank config.source.serviceName →
      SuiteDeclaration.Distinct config.processor.testSuites → config.sink = some sink →
      sink.Violation e → FirstViolation config e
  | catalog {cause : CatalogConfigError} : ¬Blank config.source.serviceName →
      SuiteDeclaration.Distinct config.processor.testSuites →
      (∀ sink ∈ config.sink, sink.WellFormed) →
      config.settings.catalog.FirstViolation cause → FirstViolation config (.catalog cause)

theorem settles_validateSink (sink : Option SinkConfig) :
    Settles (validateSink sink) (∀ given ∈ sink, given.WellFormed)
      fun e => ∃ given, sink = some given ∧ given.Violation e := by
  cases sink with
  | none => exact (Settles.ok ()).congr (by simp) fun e => by simp
  | some sink => exact (SinkConfig.settles_validateSink sink).congr (by simp) fun e => by simp

theorem settles_validate (config : WorkflowConfig) :
    Settles config.validate config.WellFormed config.FirstViolation := by
  have hsteps : config.validate =
      if Text.isBlankText config.source.serviceName then .error .blankServiceName
      else validateSuites [] config.testSuites >>= fun _ => validateSink config.sink >>= fun _ =>
        config.catalog.validate.mapError InvalidConfig.catalog := by
    rw [validate]
    cases validateSuites [] config.testSuites with
    | error e => rfl
    | ok _ =>
        cases validateSink config.sink with
        | error e => rfl
        | ok _ => cases config.catalog.validate <;> rfl
  have hsuites := settles_validateSuites [] [] (fun _ => Iff.rfl)
    SuiteDeclaration.distinct_nil config.testSuites
  rw [hsteps]
  refine (Settles.guard InvalidConfig.blankServiceName fun _ => hsuites.bind fun _ _ =>
    (settles_validateSink config.sink).bind fun _ _ =>
    config.catalog.settles_validate.mapError InvalidConfig.catalog).congr ?_ fun e => ?_
  · rw [isBlankText_iff]
    exact ⟨fun ⟨hservice, hsuites, hsink, hcatalog⟩ => ⟨hservice, hsuites, hsink, hcatalog⟩,
      fun h => ⟨h.service, h.suites, h.sink, h.catalog⟩⟩
  · rw [isBlankText_iff]
    constructor
    · rintro (⟨hservice, rfl⟩ | ⟨hservice, ⟨before, suite, after, hsplit, hbefore, hsuite⟩ |
        ⟨hsuites, ⟨sink, hgiven, hsink⟩ | ⟨hsink, cause, hcause, rfl⟩⟩⟩)
      · exact .service hservice
      · exact .suite hservice hsplit hbefore hsuite
      · exact .sink hservice hsuites hgiven hsink
      · exact .catalog hservice hsuites hsink hcause
    · rintro (hservice | ⟨hservice, hsplit, hbefore, hsuite⟩ | ⟨hservice, hsuites, hgiven, hsink⟩ |
        ⟨hservice, hsuites, hsink, hcause⟩)
      · exact .inl ⟨hservice, rfl⟩
      · exact .inr ⟨hservice, .inl ⟨_, _, _, hsplit, hbefore, hsuite⟩⟩
      · exact .inr ⟨hservice, .inr ⟨hsuites, .inl ⟨_, hgiven, hsink⟩⟩⟩
      · exact .inr ⟨hservice, .inr ⟨hsuites, .inr ⟨hsink, _, hcause, rfl⟩⟩⟩

/-- A configuration is accepted exactly if it is well formed, and it is refused with the first
condition that it violates. -/
theorem validate_names_first_violation (config : WorkflowConfig) :
    (config.validate = .ok () ↔ config.WellFormed) ∧
      ∀ e, config.validate = .error e ↔ config.FirstViolation e :=
  ⟨config.settles_validate.eq_ok_iff, config.settles_validate.error_iff⟩

/-- What is wrong with a test case of the second suite comes before the name of the third suite and
the type of the sink. -/
example :
    let rows : TestCaseDeclaration := ⟨"rows", "tableRowCountToEqual", "<#E::table::a>", none, []⟩
    let undefined : TestCaseDeclaration := ⟨"empty", " ", "<#E::table::a>", none, []⟩
    let orders : SuiteDeclaration := ⟨"orders", none, [rows]⟩
    let items : SuiteDeclaration := ⟨"items", none, [rows, undefined]⟩
    let config : WorkflowConfig :=
      { source := ⟨"postgres", "svc"⟩, processor := { testSuites := [orders, items, orders] },
        sink := some ⟨"kafka", none⟩ }
    config.validate = .error (.noDefinition "empty") := by
  decide

end WorkflowConfig

end DataQuality

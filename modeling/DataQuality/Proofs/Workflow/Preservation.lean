import DataQuality.Proofs.Catalog.MemoryCreation

/-!
# What becomes of stored test cases

A run leaves a stored test case as it is unless it creates one with the same fully qualified name.
It may do so: whether a declared test case is missing is decided by its bare name among the test
cases of the run's own suites, while a catalog keeps test cases of all suites under their fully
qualified names. So a test case of another suite can be replaced.
-/

namespace DataQuality

open MemoryCatalog

namespace MemoryCatalog

/-- Test cases stay as they are, and the catalog stays open or closed. -/
def testCasesKept : Frame MemoryCatalog where
  rel catalog catalog' :=
    catalog'.entities .testCase = catalog.entities .testCase ∧ catalog'.closed = catalog.closed
  refl _ := ⟨rfl, rfl⟩
  trans h h' := ⟨h'.1.trans h.1, h'.2.trans h.2⟩

theorem tries_createSuite (request : CreateTestSuite) :
    testCasesKept.Tries (client.create TestSuite (.testSuite request)) := by
  rw [client.create_of_kind (α := TestSuite) rfl]
  refine Frame.Tries.bind (fun world => ?_) fun value => tries_decoded testCasesKept _ value
  change testCasesKept.rel world.state (world.state.createOrUpdate (.testSuite request)).2
  unfold createOrUpdate
  split
  next => exact testCasesKept.refl _
  next =>
    split
    next => exact testCasesKept.refl _
    next =>
      obtain ⟨id, drawn, created, -, hstore⟩ :=
        world.state.exists_store (.testSuite request) request.name
      simp only [requestedName, hstore]
      exact ⟨rfl, rfl⟩

theorem tries_decodedAll {α : Type} (frame : Frame MemoryCatalog) (decode : Decoder α)
    (values : List Json) :
    frame.Tries (CatalogM.decodedAll decode values : CatalogM MemoryCatalog (List α)) := by
  induction values with
  | nil => exact frame.tries_pure []
  | cons value rest ih =>
      exact (tries_decoded frame decode value).bind fun _ => ih.bind fun _ =>
        frame.tries_pure _

end MemoryCatalog

namespace Workflow

variable (config : WorkflowConfig)

theorem tries_namedSuite (frame : Frame MemoryCatalog) :
    frame.Tries (alone config).namedSuite := by
  refine (tries_find frame TestSuite _ _).bind fun found => ?_
  cases found with
  | none => exact frame.tries_pure none
  | some suite => exact (frame.tries_note _ _).bind fun _ => frame.tries_pure _

theorem tries_suitesOf (declared : List SuiteDeclaration) :
    testCasesKept.Tries ((alone config).suitesOf declared) := by
  induction declared with
  | nil => exact testCasesKept.tries_pure []
  | cons first rest ih =>
      have hfirst : testCasesKept.Tries ((alone config).declaredSuite first) := by
        refine (tries_find testCasesKept TestSuite _ _).bind fun found => ?_
        cases found with
        | none => exact (testCasesKept.tries_note _ _).bind fun _ => tries_createSuite _
        | some suite => exact testCasesKept.tries_pure suite
      exact hfirst.bind fun _ => ih.bind fun _ => testCasesKept.tries_pure _

theorem tries_storedCases (frame : Frame MemoryCatalog) (suites : List TestSuite) :
    frame.Tries ((alone config).storedCases suites) := by
  induction suites with
  | nil => exact frame.tries_pure []
  | cons suite rest ih =>
      have hlist : frame.Tries
          ((alone config).client.findAll TestCase testCaseFields (ofSuite suite)) :=
        Frame.Tries.bind (fun world => frame.refl world.state) fun values =>
          tries_decodedAll frame _ values
      exact hlist.bind fun _ => ih.bind fun _ => frame.tries_pure _

/-- Listing may create suites, but leaves the test cases alone. -/
theorem tries_listing : testCasesKept.Tries (alone config).listing := by
  have hsuites : testCasesKept.Tries (alone config).suites := by
    refine (tries_namedSuite config testCasesKept).bind fun found => ?_
    cases found with
    | none => exact tries_suitesOf config _
    | some suite => exact testCasesKept.tries_pure _
  refine hsuites.bind fun suites => ?_
  have hstored := tries_storedCases config testCasesKept suites
  split
  next => exact (testCasesKept.tries_note _ _).bind fun _ => hstored
  next => exact hstored

/-- A closed catalog lists nothing. -/
theorem attempt_listing_closed {world : World MemoryCatalog} (h : world.state.closed = true) :
    Effect.attempt (alone config).listing world = (.error .closed, world) := by
  have hget : Effect.attempt
      (MemoryCatalog.client.getByName .testSuite config.source.serviceName []) world =
        (.error .closed, world) := by
    have hrun : Effect.attempt
        (MemoryCatalog.client.getByName .testSuite config.source.serviceName []) world =
          (if world.state.closed then .error CatalogError.closed
            else .ok (world.state.find? .testSuite config.source.serviceName), world) := rfl
    rw [hrun, h]
    rfl
  exact Effect.attempt_bind_error
    (Effect.attempt_bind_error
      (Effect.attempt_bind_error (Effect.attempt_bind_error hget _) _) _) _

/-- Once the test cases are listed, the creations of the run are all that finding its working set
does to the catalog. -/
theorem creations_of_listing {world loaded : World MemoryCatalog} {stored : List TestCase}
    (hlist : Effect.attempt (alone config).listing world = (.ok stored, loaded)) :
    Creations loaded.state ((alone config).creations world)
      (Effect.attempt (alone config).workingSet world).2.state := by
  have hkept := tries_listing config world
  rw [hlist] at hkept
  have hopen : loaded.state.closed = false := by
    rw [hkept.2]
    refine Bool.eq_false_iff.mpr fun hclosed => ?_
    rw [attempt_listing_closed config hclosed] at hlist
    cases hlist
  rw [workingSet_eq, Effect.attempt_bind, creations_eq hlist, hlist]
  exact creations_reconcile _ stored loaded hopen

/-- Finding the working set leaves the test cases alone up to the creations of the run. -/
theorem exists_creations (world : World MemoryCatalog) :
    ∃ loaded : MemoryCatalog,
      loaded.entities .testCase = world.state.entities .testCase ∧
      Creations loaded ((alone config).creations world)
        (Effect.attempt (alone config).workingSet world).2.state := by
  have hkept := tries_listing config world
  cases hlist : Effect.attempt (alone config).listing world with
  | mk answer loaded =>
      rw [hlist] at hkept
      refine ⟨loaded.state, hkept.1, ?_⟩
      cases answer with
      | error e =>
          rw [workingSet_eq, Effect.attempt_bind, creations, hlist]
          exact .done loaded.state
      | ok stored => exact creations_of_listing config hlist

variable {config} {σ : Type} {part : Part σ MemoryCatalog} {workflow : Workflow σ}

/-- What stands under a key after a run: what the run created last under it, or what stood there. -/
theorem RunsOn.find?_execute (h : workflow.RunsOn part) (status : Status) (world : World σ)
    (key : String) :
    (part.get ((workflow.execute.run.run status).run world).2.state).find? .testCase key =
      ((latest key (Declared.created (workflow.creations world))).map TestCase.toJson).or
        ((part.get world.state).find? .testCase key) := by
  obtain ⟨loaded, hloaded, hcreations⟩ := exists_creations workflow.config (part.world world)
  obtain ⟨results, hresults⟩ := h.execute_catalog status world
  have hbefore : loaded.find? .testCase key = (part.get world.state).find? .testCase key :=
    congrArg (Keyed.find? key) hloaded
  rw [hresults, h.readsThrough.creations, ← hbefore]
  exact hcreations.find?_testCase key

/-- What a run creates stems from declarations whose bare names are missing among the listed test
cases, and is named, linked and described as declared. -/
theorem RunsOn.created_stems (h : workflow.RunsOn part) {world : World σ} {declared : Declared}
    {testCase : TestCase} (hmem : (declared, .ok testCase) ∈ workflow.creations world) :
    ∃ stored loaded, Effect.attempt workflow.listing world = (.ok stored, loaded) ∧
      declared ∈ Declared.ofSuites workflow.config.testSuites ∧
      (∀ other ∈ stored, other.name ≠ declared.name) ∧
      testCaseName declared.name declared.testCase.entityLink = .ok testCase.key ∧
      testCase.description = declared.testCase.description ∧
      testCase.entityLink = declared.testCase.entityLink ∧
      testCase.parameterValues = declared.testCase.parameterValues := by
  obtain ⟨_, -, hcreations⟩ := exists_creations workflow.config (part.world world)
  have hyields := hcreations.yields (h.readsThrough.creations world ▸ hmem)
  cases hlist : Effect.attempt workflow.listing world with
  | mk answer loaded =>
      cases answer with
      | error e =>
          rw [creations, hlist] at hmem
          cases hmem
      | ok stored =>
          have hdeclared : declared ∈ workflow.missing stored :=
            creations_declared hlist ▸ List.mem_map_of_mem hmem
          obtain ⟨hdeclared, houtside⟩ := Declared.mem_firstOutside hdeclared
          refine ⟨stored, loaded, rfl, hdeclared, fun other hother heq => ?_, hyields.key_eq,
            hyields.description_eq, hyields.entityLink_eq, hyields.parameterValues_eq⟩
          exact houtside (List.mem_map.mpr ⟨other, hother, heq⟩)

/-- Of the declarations that are missing, a run creates exactly those that the catalog yields. -/
theorem RunsOn.created_iff (h : workflow.RunsOn part) {world loaded : World σ}
    {stored : List TestCase}
    (hlist : Effect.attempt workflow.listing world = (.ok stored, loaded))
    {declared : Declared} (hmissing : declared ∈ workflow.missing stored) :
    (∃ testCase, (declared, .ok testCase) ∈ workflow.creations world) ↔
      ∃ testCase, (part.get loaded.state).Yields declared testCase := by
  have hinner := hlist
  rw [h.readsThrough.listing, part.attempt_liftExcept] at hinner
  obtain ⟨hstored, hloaded⟩ := Prod.mk.inj hinner
  have hcreations := creations_of_listing workflow.config (Prod.ext hstored rfl)
  rw [← h.readsThrough.creations] at hcreations
  have hstate : part.get loaded.state =
      (Effect.attempt (alone workflow.config).listing (part.world world)).2.state := by
    rw [← hloaded]
    exact congrArg World.state (part.world_within world _)
  rw [hstate]
  constructor
  · rintro ⟨testCase, hmem⟩
    exact ⟨testCase, hcreations.yields hmem⟩
  · rintro ⟨testCase, hyields⟩
    rw [← creations_declared hlist] at hmissing
    -- every missing declaration is attempted, and a failure would contradict what it yields
    obtain ⟨⟨attempted, answer⟩, hmem, rfl⟩ := List.mem_map.mp hmissing
    cases answer with
    | ok created => exact ⟨created, hmem⟩
    | error e => exact absurd hyields (hcreations.not_yields hmem testCase)

/-- Stored test cases stay as they were if what is created last under their keys is the same. -/
theorem RunsOn.testCases_kept_iff (h : workflow.RunsOn part) (status : Status)
    (world : World σ) :
    (∀ key value, (part.get world.state).find? .testCase key = some value →
        (part.get ((workflow.execute.run.run status).run world).2.state).find? .testCase key =
          some value) ↔
      ∀ testCase ∈ Declared.created (workflow.creations world),
        latest testCase.key (Declared.created (workflow.creations world)) = some testCase →
        ∀ value, (part.get world.state).find? .testCase testCase.key = some value →
          value = testCase.toJson := by
  constructor
  · intro hkept testCase _ hlatest value hstored
    have hafter := hkept testCase.key value hstored
    rw [h.find?_execute, hlatest] at hafter
    exact (Option.some.inj hafter).symm
  · intro hcreated key value hstored
    rw [h.find?_execute]
    cases hlatest : latest key (Declared.created (workflow.creations world)) with
    | none => exact hstored
    | some testCase =>
        obtain ⟨hmem, rfl⟩ := mem_of_latest hlatest
        rw [hcreated testCase hmem hlatest value hstored]
        rfl

/-- A run leaves all stored test cases as they were exactly if nothing that it creates replaces a
different one. It creates declared test cases whose bare names are missing among those listed for
its suites, under their fully qualified names, whatever stands there; and of those it creates all
that the catalog yields. -/
theorem execute_keeps_testCases_iff (h : workflow.RunsOn part) (status : Status)
    (world : World σ) :
    ((∀ key value, (part.get world.state).find? .testCase key = some value →
        (part.get ((workflow.execute.run.run status).run world).2.state).find? .testCase key =
          some value) ↔
      ∀ testCase ∈ Declared.created (workflow.creations world),
        latest testCase.key (Declared.created (workflow.creations world)) = some testCase →
        ∀ value, (part.get world.state).find? .testCase testCase.key = some value →
          value = testCase.toJson) ∧
    (∀ declared testCase, (declared, .ok testCase) ∈ workflow.creations world →
      ∃ stored loaded, Effect.attempt workflow.listing world = (.ok stored, loaded) ∧
        declared ∈ Declared.ofSuites workflow.config.testSuites ∧
        (∀ other ∈ stored, other.name ≠ declared.name) ∧
        testCaseName declared.name declared.testCase.entityLink = .ok testCase.key ∧
        testCase.description = declared.testCase.description ∧
        testCase.entityLink = declared.testCase.entityLink ∧
        testCase.parameterValues = declared.testCase.parameterValues) ∧
    ∀ stored loaded, Effect.attempt workflow.listing world = (.ok stored, loaded) →
      ∀ declared ∈ workflow.missing stored,
        ((∃ testCase, (declared, .ok testCase) ∈ workflow.creations world) ↔
          ∃ testCase, (part.get loaded.state).Yields declared testCase) :=
  ⟨h.testCases_kept_iff status world, fun _ _ hmem => h.created_stems hmem,
    fun _ _ hlist _ hmissing => h.created_iff hlist hmissing⟩

/-! ## A test case that is replaced -/

/-- A configuration whose suite `a` declares a test case `rows`. -/
def overlappingConfig : WorkflowConfig :=
  (WorkflowConfig.ofSource "sample-data" "nightly").withTestSuite
    ⟨"a", none, [⟨"rows", "tableRowCountToEqual", "<#E::table::svc.db.sch.orders>", none,
      [⟨"value", "7"⟩]⟩]⟩

/-- A test case `rows` of the suite `b`, on the same table. -/
def overlappingCase : TestCase :=
  let suite : TestSuite := ⟨.ofNat 2, "b", none, none⟩
  let definition : TestDefinition := ⟨.ofNat 3, "tableRowCountToEqual", none, none, none⟩
  ⟨.ofNat 4, "rows", some "svc.db.sch.orders.rows", some "of b",
    "<#E::table::svc.db.sch.orders>", Entity.reference suite, Entity.reference definition,
    [⟨"value", "100"⟩]⟩

/-- The suites `a` and `b`, and the test case of `b`. -/
def overlappingCatalog : MemoryCatalog :=
  let empty : MemoryCatalog := {}
  let definition : TestDefinition := ⟨.ofNat 3, "tableRowCountToEqual", none, none, none⟩
  let suite (id : Nat) (name : String) : TestSuite := ⟨.ofNat id, name, none, none⟩
  empty.insert (suite 1 "a") |>.insert (suite 2 "b") |>.insert definition
    |>.insert overlappingCase

theorem execute_keeps_testCases_iff_overlapping :
    ¬∀ key value, overlappingCatalog.find? .testCase key = some value →
      (((alone overlappingConfig).execute.run.run {}).run
        ⟨overlappingCatalog, []⟩).2.state.find? .testCase key = some value := by
  intro hkept
  obtain ⟨hiff, -⟩ := execute_keeps_testCases_iff (runsOn_alone overlappingConfig) {}
    ⟨overlappingCatalog, []⟩
  simp only [Part.get_whole] at hiff
  have hdifferent := hiff.mp hkept
  have hcreated : (Declared.created ((alone overlappingConfig).creations
      ⟨overlappingCatalog, []⟩)).map (fun testCase => (testCase.key, testCase.description)) =
        [("svc.db.sch.orders.rows", none)] := by
    decide +kernel
  generalize Declared.created _ = created at hdifferent hcreated
  obtain ⟨replacing, rfl, hreplacing⟩ := List.map_eq_singleton_iff.mp hcreated
  obtain ⟨hkey, hdescription⟩ := Prod.mk.inj hreplacing
  have hstored : overlappingCatalog.find? .testCase replacing.key =
      some overlappingCase.toJson := by
    rw [hkey]
    rfl
  have hsame := hdifferent replacing List.mem_cons_self (by simp [latest]) _ hstored
  rw [← TestCase.reads.injective hsame] at hdescription
  cases hdescription

/-- There is a valid configuration whose run replaces a test case of a suite it does not name. -/
theorem exists_testCase_replaced :
    ∃ (config : WorkflowConfig) (catalog : MemoryCatalog) (testCase : TestCase),
      config.validate = .ok () ∧ catalog.Reachable ∧ catalog.closed = false ∧
      (∀ suite ∈ config.testSuites, testCase.testSuite.name ≠ some suite.name) ∧
      catalog.Holds testCase ∧
      ¬(((alone config).execute.run.run {}).run ⟨catalog, []⟩).2.state.Holds testCase := by
  refine ⟨overlappingConfig, overlappingCatalog, overlappingCase, rfl, ?_, rfl, by decide, rfl, ?_⟩
  · exact .insert (.insert (.insert (.insert (.empty _) (.testSuite _)) (.testSuite _))
      (.testDefinition _)) (.testCase _)
  · have hafter : ((((alone overlappingConfig).execute.run.run {}).run
        ⟨overlappingCatalog, []⟩).2.state.find? .testCase overlappingCase.key).map
          (fun value => (TestCase.decoder (Datum.ofJson value)).toOption.map (·.description)) =
        some (some none) := by
      decide +kernel
    generalize ((((alone overlappingConfig).execute.run.run {}).run
      ⟨overlappingCatalog, []⟩).2.state) = after at hafter ⊢
    intro hheld
    have hfind : after.find? .testCase overlappingCase.key = some overlappingCase.toJson := hheld
    rw [hfind, Option.map_some, TestCase.reads overlappingCase] at hafter
    cases hafter

end Workflow

end DataQuality

import DataQuality.Proofs.Catalog.MemoryCreation
import DataQuality.Proofs.Workflow.Suites
import DataQuality.Proofs.Workflow.Validity

/-!
# Reconciling twice

What a run created, the next run of the same configuration finds: the suites under their names,
the test cases among those of their suites. So the next run creates nothing. What it tries to
create is what failed before, and it fails again, since whether a creation fails depends on
nothing that the creations before it changed.
-/

namespace DataQuality

namespace MemoryCatalog

/-- The test cases of suites, suite by suite. -/
def listed (catalog : MemoryCatalog) (suites : List TestSuite) : List TestCase :=
  suites.flatMap fun suite =>
    catalog.testCases.filter fun testCase => testCase.testSuite.id == suite.id

variable {catalog final : MemoryCatalog} {suites : List TestSuite}

theorem WellFormed.mem_listed (h : catalog.WellFormed) {testCase : TestCase} :
    testCase ∈ catalog.listed suites ↔
      catalog.Holds testCase ∧ ∃ suite ∈ suites, testCase.testSuite.id = suite.id := by
  simp only [listed, List.mem_flatMap, List.mem_filter, h.mem_testCases, beq_iff_eq]
  constructor
  · rintro ⟨suite, hsuite, hholds, hid⟩
    exact ⟨hholds, suite, hsuite, hid⟩
  · rintro ⟨hholds, suite, hsuite, hid⟩
    exact ⟨suite, hsuite, hholds, hid⟩

/-- No test case is listed for two suites. -/
theorem WellFormed.nodup_listed (h : catalog.WellFormed) (hids : (suites.map (·.id)).Nodup) :
    (catalog.listed suites).Nodup := by
  have htestCases : catalog.testCases.Nodup := h.nodup_keys.of_map
  refine List.nodup_flatMap.mpr ⟨fun suite _ => htestCases.filter _, ?_⟩
  refine List.Pairwise.imp (fun {suite suite'} hne testCase hmem hmem' => ?_)
    (List.pairwise_map.mp hids)
  have hid := beq_iff_eq.mp (List.mem_filter.mp hmem).2
  have hid' := beq_iff_eq.mp (List.mem_filter.mp hmem').2
  exact hne (hid.symm.trans hid')

variable {declared : List SuiteDeclaration}

theorem Agrees.found {catalog' : MemoryCatalog} (h : catalog.Agrees catalog')
    (hfound : catalog.Found declared suites) : catalog'.Found declared suites :=
  hfound.imp fun d suite hfind => (h.find?_eq (by decide) d.name).trans hfind

/-- After creations with different keys, a catalog holds what was created, and what it held under
other keys. -/
theorem Creations.holds_iff {answers : List (Declared × Except CatalogError TestCase)}
    (h : Creations catalog answers final) (hkeys : ((Declared.created answers).map (·.key)).Nodup)
    {testCase : TestCase} :
    final.Holds testCase ↔ testCase ∈ Declared.created answers ∨
      catalog.Holds testCase ∧ testCase.key ∉ (Declared.created answers).map (·.key) := by
  have hiff : final.Holds testCase ↔
      ((latest testCase.key (Declared.created answers)).map TestCase.toJson).or
        (catalog.find? .testCase testCase.key) = some testCase.toJson := by
    rw [← h.find?_testCase]
    rfl
  rw [hiff]
  constructor
  · intro hfind
    cases hlatest : latest testCase.key (Declared.created answers) with
    | some created =>
        rw [hlatest] at hfind
        rw [← TestCase.reads.injective (Option.some.inj hfind)]
        exact .inl (mem_of_latest hlatest).1
    | none =>
        rw [hlatest] at hfind
        refine .inr ⟨hfind, fun hmem => ?_⟩
        obtain ⟨created, hcreated, hkey⟩ := List.mem_map.mp hmem
        rw [← hkey, latest_of_nodup hkeys hcreated] at hlatest
        cases hlatest
  · rintro (hcreated | ⟨hholds, hother⟩)
    · rw [latest_of_nodup hkeys hcreated]
      rfl
    · have hnone : latest testCase.key (Declared.created answers) = none :=
        latest_eq_none fun created hmem hkey => hother (List.mem_map.mpr ⟨created, hmem, hkey⟩)
      rw [hnone]
      exact hholds

/-- What is created refers to the suite that stands under its declared name. -/
theorem Creations.exists_suite {answers : List (Declared × Except CatalogError TestCase)}
    (h : Creations catalog answers final) (hfound : catalog.Found declared suites)
    (hdeclared : ∀ answer ∈ answers, answer.1.suite ∈ declared) {testCase : TestCase}
    (hcreated : testCase ∈ Declared.created answers) :
    ∃ suite ∈ suites, testCase.testSuite.id = suite.id := by
  obtain ⟨⟨declaration, answer⟩, hanswer, hok⟩ := List.mem_filterMap.mp hcreated
  cases answer with
  | error e => cases hok
  | ok created =>
      cases hok
      obtain ⟨suite, hsuite, hfind⟩ := hfound.exists_of_mem (hdeclared _ hanswer)
      refine ⟨suite, hsuite, ?_⟩
      have hreference := (h.yields hanswer).suite.symm.trans (reference_of_suite hfind)
      rw [Except.ok.inj hreference]

/-- What creations leave is listed as what was listed, completed with what was created. -/
theorem Creations.listed_perm {answers : List (Declared × Except CatalogError TestCase)}
    (h : Creations catalog answers final) (hwell : catalog.WellFormed)
    (hfound : catalog.Found declared suites) (hids : (suites.map (·.id)).Nodup)
    (hdeclared : ∀ answer ∈ answers, answer.1.suite ∈ declared)
    (hkeys : ((catalog.listed suites ++ Declared.created answers).map (·.key)).Nodup) :
    (final.listed suites).Perm (catalog.listed suites ++ Declared.created answers) := by
  have hfinal := h.wellFormed hwell
  have hsplit := List.map_append ▸ hkeys
  obtain ⟨-, hcreatedKeys, hdisjoint⟩ := List.nodup_append.mp hsplit
  refine (List.perm_ext_iff_of_nodup (hfinal.nodup_listed hids) hkeys.of_map).mpr
    fun testCase => ?_
  rw [hfinal.mem_listed, h.holds_iff hcreatedKeys, List.mem_append, hwell.mem_listed]
  constructor
  · rintro ⟨hcreated | ⟨hholds, -⟩, hsuite⟩
    · exact .inr hcreated
    · exact .inl ⟨hholds, hsuite⟩
  · rintro (⟨hholds, hsuite⟩ | hcreated)
    · refine ⟨.inr ⟨hholds, fun hmem => ?_⟩, hsuite⟩
      -- a listed test case would have the key of a created one, but all keys differ
      have hlisted : testCase ∈ catalog.listed suites := hwell.mem_listed.mpr ⟨hholds, hsuite⟩
      exact hdisjoint testCase.key (List.mem_map_of_mem hlisted) testCase.key hmem rfl
    · exact ⟨.inl hcreated, h.exists_suite hfound hdeclared hcreated⟩

end MemoryCatalog

namespace Workflow

open MemoryCatalog

variable {config : WorkflowConfig} {world : World MemoryCatalog}

/-! ## Listing -/

theorem attempt_namedSuite_of_none (hopen : world.state.closed = false)
    (h : world.state.find? .testSuite config.source.serviceName = none) :
    Effect.attempt (alone config).namedSuite world = (.ok none, world) := by
  have hfind : Effect.attempt
      ((alone config).client.find TestSuite config.source.serviceName []) world =
        (.ok none, world) :=
    attempt_find_none (α := TestSuite) hopen h []
  exact Effect.attempt_bind_ok hfind _

/-- Without a suite of the service's name, the suites of a run are the declared ones. -/
theorem attempt_suites (hopen : world.state.closed = false)
    (h : world.state.find? .testSuite config.source.serviceName = none) :
    Effect.attempt (alone config).suites world =
      Effect.attempt ((alone config).suitesOf config.testSuites) world := by
  rw [suites, Effect.attempt_bind_ok (attempt_namedSuite_of_none hopen h)]
  rfl

theorem attempt_storedCases (world : World MemoryCatalog) (hopen : world.state.closed = false)
    (hwell : world.state.WellFormed) (suites : List TestSuite) :
    Effect.attempt ((alone config).storedCases suites) world =
      (.ok (world.state.listed suites), world) := by
  induction suites with
  | nil => rfl
  | cons suite rest ih =>
      have hfirst : Effect.attempt
          ((alone config).client.findAll TestCase testCaseFields (ofSuite suite)) world = _ :=
        attempt_findAll hopen hwell testCaseFields suite
      rw [storedCases, Effect.attempt_bind_ok hfirst, Effect.attempt_bind_ok ih]
      rfl

/-- Once the suites are resolved, their test cases are listed and nothing changes. -/
theorem attempt_listing {suites : List TestSuite} {next : World MemoryCatalog}
    (h : Effect.attempt (alone config).suites world = (.ok suites, next))
    (hopen : next.state.closed = false) (hwell : next.state.WellFormed) :
    ∃ journal, Effect.attempt (alone config).listing world =
      (.ok (next.state.listed suites), ⟨next.state, journal⟩) := by
  have hstored : ∀ journal,
      Effect.attempt ((alone config).storedCases suites) ⟨next.state, journal⟩ =
        (.ok (next.state.listed suites), ⟨next.state, journal⟩) :=
    fun journal => attempt_storedCases ⟨next.state, journal⟩ hopen hwell suites
  rw [listing, Effect.attempt_bind_ok h]
  split
  next => exact ⟨_, (Effect.attempt_bind_ok (Effect.attempt_note _ _ _) _).trans (hstored _)⟩
  next => exact ⟨_, hstored next.journal⟩

/-! ## Two runs -/

/-- How a working set is found, in a catalog without a suite of the service's name. -/
theorem exists_of_workingSet (hopen : world.state.closed = false)
    (hwell : world.state.WellFormed)
    (hservice : world.state.find? .testSuite config.source.serviceName = none)
    {working : List TestCase} {loaded : World MemoryCatalog}
    (h : Effect.attempt (alone config).workingSet world = (.ok working, loaded)) :
    ∃ suites resolved, Resolves world.state config.testSuites suites resolved ∧
      Creations resolved ((alone config).creations world) loaded.state ∧
      ((alone config).creations world).map (·.1) =
        (alone config).missing (resolved.listed suites) ∧
      working =
        resolved.listed suites ++ Declared.created ((alone config).creations world) := by
  obtain ⟨stored, listed, hlisting, rfl, hworking⟩ := exists_listing h
  obtain ⟨suites, next, hsuites, -⟩ := Effect.exists_of_attempt_bind hlisting
  have hresolves : Resolves world.state config.testSuites suites next.state :=
    resolves_suitesOf hopen hwell ((attempt_suites hopen hservice).symm.trans hsuites)
  have hnextOpen : next.state.closed = false := hresolves.closed_eq.trans hopen
  obtain ⟨journal, hlist⟩ :=
    attempt_listing hsuites hnextOpen (hresolves.wellFormed hwell)
  cases hlisting.symm.trans hlist
  refine ⟨suites, next.state, hresolves, ?_, creations_declared hlist, hworking⟩
  rw [creations_eq hlist]
  exact creations_reconcile config.testSuites (next.state.listed suites)
    ⟨next.state, journal⟩ hnextOpen

/-- A run that finds its suites, and whose missing declarations yield nothing, changes nothing. -/
theorem attempt_workingSet_again (world : World MemoryCatalog)
    (hopen : world.state.closed = false)
    (hwell : world.state.WellFormed)
    (hservice : world.state.find? .testSuite config.source.serviceName = none)
    {suites : List TestSuite} (hfound : world.state.Found config.testSuites suites)
    (hfail : ∀ declared ∈ (alone config).missing (world.state.listed suites), ∀ testCase,
      ¬world.state.Yields declared testCase) :
    Effect.attempt (alone config).suites world = (.ok suites, world) ∧
      (∃ journal, Effect.attempt (alone config).workingSet world =
        (.ok (world.state.listed suites), ⟨world.state, journal⟩)) ∧
      ((alone config).creations world).map (·.1) =
        (alone config).missing (world.state.listed suites) ∧
      Declared.failing ((alone config).creations world) =
        (alone config).missing (world.state.listed suites) := by
  have hsuites : Effect.attempt (alone config).suites world = (.ok suites, world) :=
    (attempt_suites hopen hservice).trans (attempt_suitesOf_of_found hopen hfound)
  obtain ⟨journal, hlist⟩ := attempt_listing hsuites hopen hwell
  have hdeclared := Declared.reconciled_declared (alone config).client
    ((alone config).missing (world.state.listed suites)) ⟨world.state, journal⟩
  have hstate := creations_reconcile config.testSuites (world.state.listed suites)
    ⟨world.state, journal⟩ hopen
  obtain ⟨hsame, hcreated, hfailing⟩ := hstate.eq_of_not_yields fun answer hanswer =>
    hfail answer.1 (hdeclared ▸ List.mem_map_of_mem hanswer)
  have hworking := Declared.run_reconcile MemoryCatalog.client config.testSuites
    (world.state.listed suites) ⟨world.state, journal⟩
  rw [hcreated, List.append_nil] at hworking
  rw [creations_eq hlist]
  refine ⟨hsuites, ?_, hdeclared, hfailing.trans hdeclared⟩
  rw [workingSet_eq, Effect.attempt_bind_ok hlist, Effect.attempt_lift]
  cases hrun : (Declared.reconcile MemoryCatalog.client config.testSuites
      (world.state.listed suites)).run ⟨world.state, journal⟩ with
  | mk working next =>
      rw [hrun] at hworking hsame
      obtain ⟨state, journal'⟩ := next
      cases hworking
      cases hsame
      exact ⟨journal', congrArg (fun run => (Except.ok run.1, run.2)) hrun⟩

/-- What is missing beside what was listed and created is what failed. -/
theorem missing_again {workflow : Workflow MemoryCatalog}
    {answers : List (Declared × Except CatalogError TestCase)} {stored again : List TestCase}
    (hmissing : answers.map (·.1) = workflow.missing stored)
    (hname : ∀ declared testCase, (declared, .ok testCase) ∈ answers →
      testCase.name = declared.name)
    (hagain : again.Perm (stored ++ Declared.created answers)) :
    workflow.missing again = Declared.failing answers := by
  have hnames : ∀ name, name ∈ again.map (·.name) ↔
      name ∈ stored.map (·.name) ∨ name ∈ (Declared.created answers).map (·.name) := by
    intro name
    rw [(hagain.map TestCase.name).mem_iff, List.map_append, List.mem_append]
  have hnodup : ((answers.map (·.1)).map Declared.name).Nodup := by
    rw [hmissing]
    exact Declared.nodup_firstOutside _ _
  rw [Declared.failing_eq_filter hnodup hname, hmissing]
  exact Declared.firstOutside_of_mem_iff hnames _

/-- In a valid configuration no two suites have the same name. -/
theorem nodup_of_validate (h : config.validate = .ok ()) :
    (config.testSuites.map (·.name)).Nodup :=
  (config.settles_validate.eq_ok_iff.mp h).suites.nodup

/-- In what the first of two runs leaves, up to results, the second one finds everything again. -/
theorem exists_second_run {catalog resolved final kept : MemoryCatalog}
    {suites : List TestSuite} {answers : List (Declared × Except CatalogError TestCase)}
    (journal : List LogLine) (hopen : catalog.closed = false) (hwell : catalog.WellFormed)
    (hids : catalog.DistinctIds) (hfresh : catalog.DrawsFresh final.drawn)
    (hnames : (config.testSuites.map (·.name)).Nodup)
    (hservice : catalog.find? .testSuite config.source.serviceName = none)
    (hother : ∀ suite ∈ config.testSuites, suite.name ≠ config.source.serviceName)
    (hresolves : Resolves catalog config.testSuites suites resolved)
    (hcreations : Creations resolved answers final)
    (hmissing : answers.map (·.1) = (alone config).missing (resolved.listed suites))
    (hkeys : ((resolved.listed suites ++ Declared.created answers).map (·.key)).Nodup)
    (hkept : butResults.rel final kept) :
    Effect.attempt (alone config).suites ⟨kept, journal⟩ = (.ok suites, ⟨kept, journal⟩) ∧
      (∃ working journal', Effect.attempt (alone config).workingSet ⟨kept, journal⟩ =
          (.ok working, ⟨kept, journal'⟩) ∧
        working.Perm (resolved.listed suites ++ Declared.created answers)) ∧
      ((alone config).creations ⟨kept, journal⟩).map (·.1) = Declared.failing answers ∧
      Declared.failing ((alone config).creations ⟨kept, journal⟩) =
        Declared.failing answers := by
  obtain ⟨results, rfl⟩ := hkept
  have hresolvedWell := hresolves.wellFormed hwell
  have hagrees : resolved.Agrees { final with results } :=
    hcreations.agrees.trans ⟨fun _ _ => rfl, rfl, rfl⟩
  have hkeptOpen := hagrees.closed_eq.trans (hresolves.closed_eq.trans hopen)
  have hkeptWell : WellFormed { final with results } :=
    (hcreations.wellFormed hresolvedWell).of_entities rfl
  have hnone := (hagrees.find?_eq (by decide) config.source.serviceName).trans
    (hresolves.find?_eq_none hservice hother)
  have hfound := hresolves.all_found
  have hsuiteIds : (suites.map (·.id)).Nodup :=
    hfound.nodup_ids hresolvedWell
      (hresolves.distinctIds hcreations.drawn_le hids hfresh) hnames
  have hdeclared : ∀ answer ∈ answers, answer.1.suite ∈ config.testSuites := by
    intro answer hanswer
    have hmem : answer.1 ∈ (alone config).missing (resolved.listed suites) :=
      hmissing ▸ List.mem_map_of_mem hanswer
    obtain ⟨suite, hsuite, hcase⟩ := List.mem_flatMap.mp (Declared.mem_firstOutside hmem).1
    obtain ⟨testCase, -, heq⟩ := List.mem_map.mp hcase
    exact heq ▸ hsuite
  have hperm := hcreations.listed_perm hresolvedWell hfound hsuiteIds hdeclared hkeys
  -- the second run finds everything but what failed, and that yields nothing again
  have hagain := missing_again hmissing
    (fun declared testCase hmem => (hcreations.yields hmem).name_eq) hperm
  have hfail : ∀ declared ∈ (alone config).missing (final.listed suites), ∀ testCase,
      ¬Yields { final with results } declared testCase := by
    intro declared hmem testCase hyields
    rw [hagain] at hmem
    obtain ⟨⟨failed, answer⟩, hanswer, rfl⟩ := List.mem_map.mp hmem
    obtain ⟨hanswer, herror⟩ := List.mem_filter.mp hanswer
    cases answer with
    | ok created => cases herror
    | error e => exact hcreations.not_yields hanswer testCase (hagrees.symm.yields hyields)
  obtain ⟨hsuites, ⟨journal', hworking⟩, hfirst, hfailing⟩ :=
    attempt_workingSet_again ⟨{ final with results }, journal⟩ hkeptOpen hkeptWell hnone
      (hagrees.found hfound) hfail
  exact ⟨hsuites, ⟨_, journal', hworking, hperm⟩, hfirst.trans hagain, hfailing.trans hagain⟩

variable {σ : Type} {part : Part σ MemoryCatalog} {workflow again : Workflow σ}

/-- Reconciliation is idempotent. After a run that succeeds and works on test cases with different
keys, a run of the same configuration succeeds, creates no suite, tries to create what failed
before and fails again, leaves the catalog as it is but for results, and works on the same keys. -/
theorem execute_twice (h : workflow.RunsOn part) (hagain : again.RunsOn part)
    (hconfig : again.config = workflow.config) {status after : Status}
    {world middle loaded : World σ} {working : List TestCase}
    (hreachable : (part.get world.state).Reachable)
    (hopen : (part.get world.state).closed = false)
    (hids : (part.get world.state).DistinctIds)
    (hfresh : (part.get world.state).DrawsFresh (part.get middle.state).drawn)
    (hvalid : workflow.config.validate = .ok ())
    (hservice :
      (part.get world.state).find? .testSuite workflow.config.source.serviceName = none)
    (hother : ∀ suite ∈ workflow.config.testSuites,
      suite.name ≠ workflow.config.source.serviceName)
    (hfirst : (workflow.execute.run.run status).run world = ((.ok (), after), middle))
    (hworking : Effect.attempt workflow.workingSet world = (.ok working, loaded))
    (hkeys : (working.map (·.key)).Nodup) (status' : Status) :
    ∃ after' final working' loaded',
      (again.execute.run.run status').run middle = ((.ok (), after'), final) ∧
      (∃ suites, Effect.attempt again.suites middle = (.ok suites, middle)) ∧
      (again.creations middle).map (·.1) = Declared.failing (workflow.creations world) ∧
      Declared.failing (again.creations middle) = Declared.failing (workflow.creations world) ∧
      (part.get final.state).created = (part.get middle.state).created ∧
      butResults.rel (part.get middle.state) (part.get final.state) ∧
      Effect.attempt again.workingSet middle = (.ok working', loaded') ∧
      (working'.map (·.key)).Perm (working.map (·.key)) := by
  have hreads : ReadsThrough part again (alone workflow.config) := ⟨hconfig, hagain.client_eq⟩
  have hkept := h.execute_catalog status world
  rw [h.readsThrough.workingSet, part.attempt_liftExcept] at hworking
  cases hinner : Effect.attempt (alone workflow.config).workingSet (part.world world) with
  | mk answer inner =>
      rw [hinner, hfirst] at hkept
      rw [hinner] at hworking
      cases hworking
      obtain ⟨suites, resolved, hresolves, hcreations, hmissing, rfl⟩ :=
        exists_of_workingSet hopen hreachable.wellFormed hservice hinner
      replace hkept : butResults.rel inner.state (part.get middle.state) := hkept
      have hdrawn : (part.get middle.state).drawn = inner.state.drawn := by
        obtain ⟨results, hresults⟩ := hkept
        rw [hresults]
      rw [hdrawn] at hfresh
      obtain ⟨hsuites, ⟨working', journal, hagainWorking, hperm⟩, hattempted, hfailing⟩ :=
        exists_second_run middle.journal hopen hreachable.wellFormed hids hfresh
          (nodup_of_validate hvalid) hservice hother hresolves hcreations hmissing hkeys hkept
      have hworld : (⟨part.get middle.state, middle.journal⟩ : World MemoryCatalog) =
          part.world middle := rfl
      rw [hworld] at hsuites hagainWorking hattempted hfailing
      have hsecond : Effect.attempt again.workingSet middle =
          (.ok working', part.within middle ⟨part.get middle.state, journal⟩) := by
        rw [hreads.workingSet, part.attempt_liftExcept, hagainWorking]
      have hexecute := again.run_execute status' middle
      rw [hsecond] at hexecute
      have hleft := hagain.execute_catalog status' middle
      rw [hconfig, hagainWorking, hexecute] at hleft
      refine ⟨_, _, working', _, hexecute, ⟨suites, ?_⟩, ?_, ?_, ?_, hleft, hsecond,
        hperm.map TestCase.key⟩
      · rw [hreads.suites, part.attempt_liftExcept, hsuites, part.within_world]
      · rw [hreads.creations, h.readsThrough.creations, hattempted]
      · rw [hreads.creations, h.readsThrough.creations, hfailing]
      · obtain ⟨results, hresults⟩ := hleft
        dsimp only at hresults
        rw [hresults]

/-- A configuration whose suite declares a test case that can be created, and one that cannot. -/
def partialConfig : WorkflowConfig :=
  let link := "<#E::table::svc.db.sch.orders>"
  (WorkflowConfig.ofSource "sample-data" "nightly").withTestSuite
    ⟨"a", none, [⟨"gone", "unknown", link, none, []⟩,
      ⟨"rows", "tableRowCountToEqual", link, none, []⟩]⟩

/-- A catalog with one definition and nothing else. -/
def definitionCatalog : MemoryCatalog :=
  let definition : TestDefinition := ⟨.ofNat 100, "tableRowCountToEqual", none, none, none⟩
  let empty : MemoryCatalog := {}
  empty.insert definition

theorem execute_twice_partial :
    ∃ middle after final,
      ((alone partialConfig).execute.run.run {}).run ⟨definitionCatalog, []⟩ =
        ((.ok (), { failures := ["svc.db.sch.orders.rows"] }), middle) ∧
      ((alone partialConfig).execute.run.run {}).run middle = ((.ok (), after), final) ∧
      Declared.failing ((alone partialConfig).creations middle) =
        Declared.failing ((alone partialConfig).creations ⟨definitionCatalog, []⟩) ∧
      final.state.created = middle.state.created := by
  have hdrawn : (((alone partialConfig).execute.run.run {}).run
      ⟨definitionCatalog, []⟩).2.state.drawn = 2 := by
    decide +kernel
  have hkeys : (Effect.attempt (alone partialConfig).workingSet
      ⟨definitionCatalog, []⟩).1.toOption.map (fun working => working.map (·.key)) =
        some ["svc.db.sch.orders.rows"] := by
    decide +kernel
  obtain ⟨middle, hrun⟩ : ∃ middle, ((alone partialConfig).execute.run.run {}).run
      ⟨definitionCatalog, []⟩ = ((.ok (), { failures := ["svc.db.sch.orders.rows"] }), middle) :=
    exists_run_ok (by decide +kernel) (by decide +kernel)
  obtain ⟨working, hworking, hkeys⟩ := Option.map_eq_some_iff.mp hkeys
  obtain ⟨loaded, hload⟩ := exists_attempt_ok hworking
  rw [hrun] at hdrawn
  have hnone : ∀ suite : TestSuite, ¬definitionCatalog.Holds suite :=
    fun suite hholds => by cases hholds
  have hfresh : definitionCatalog.DrawsFresh middle.state.drawn := by
    intro i _ hi
    refine ⟨fun suite hholds => absurd hholds (hnone suite), fun j _ hj => ?_⟩
    have htwo : i < 2 := hdrawn ▸ hi
    have hone : i = 1 := by omega
    have hzero : j = 0 := by omega
    subst hone hzero
    decide
  have hreachable : definitionCatalog.Reachable :=
    .insert (.empty _) (.testDefinition ⟨.ofNat 100, "tableRowCountToEqual", none, none, none⟩)
  have hruns := runsOn_alone partialConfig
  obtain ⟨after, final, -, -, hagain, -, -, hfailing, hcreated, -⟩ :=
    @execute_twice _ _ _ _ hruns hruns rfl _ _ ⟨definitionCatalog, []⟩ _ _ _ hreachable rfl
      (fun suite _ hholds => absurd hholds (hnone suite)) hfresh rfl rfl (by decide) hrun hload
      (hkeys ▸ List.nodup_singleton _) {}
  exact ⟨middle, after, final, hrun, hagain, hfailing, hcreated⟩

end Workflow

end DataQuality

import DataQuality.Proofs.Workflow.Idempotence

/-!
# Resolving suites twice

What resolving suites finds depends on whether a suite is stored under the name of the service.
Resolving may itself put one there, if that name is among the declared ones: the declared suites
are the answer then, but the next time the suite of the service alone. In every other case the
same suites are found again, in the same order.
-/

namespace DataQuality

namespace MemoryCatalog

theorem Agrees.refl (catalog : MemoryCatalog) : catalog.Agrees catalog :=
  ⟨fun _ _ => rfl, rfl, rfl⟩

/-- The suite of the service does not come to stand for others: it is stored already, or is not
declared, or nothing else is. -/
def Settles (catalog : MemoryCatalog) (config : WorkflowConfig) : Prop :=
  (catalog.find? .testSuite config.source.serviceName).isSome = true ∨
    config.source.serviceName ∉ config.testSuites.map (·.name) ∨
    config.testSuites.map (·.name) = [config.source.serviceName]

variable {catalog : MemoryCatalog} {declared : List SuiteDeclaration} {suites : List TestSuite}

/-- One of the suites found for declarations is all of them exactly if there is one declaration,
the one of its name. -/
theorem Found.eq_singleton_iff (h : catalog.Found declared suites) {suite : TestSuite}
    (hsuite : suite ∈ suites) {name : String} (hname : name ∈ declared.map (·.name)) :
    [suite] = suites ↔ declared.map (·.name) = [name] := by
  have hlength : declared.length = suites.length := List.Forall₂.length_eq h
  constructor
  · intro heq
    rw [← heq, List.length_singleton] at hlength
    obtain ⟨d, rfl⟩ := List.length_eq_one_iff.mp hlength
    simp only [List.map_cons, List.map_nil, List.mem_singleton] at hname ⊢
    rw [hname]
  · intro heq
    have hone : declared.length = 1 := by
      rw [← List.length_map (f := (·.name)), heq, List.length_singleton]
    rw [hone] at hlength
    obtain ⟨other, rfl⟩ := List.length_eq_one_iff.mp hlength.symm
    rw [List.mem_singleton.mp hsuite]

end MemoryCatalog

namespace Workflow

open MemoryCatalog

/-! ## Resolving once -/

section Once

variable {config : WorkflowConfig} {world : World MemoryCatalog}

/-- The suite named after the service is the whole answer. -/
theorem attempt_suites_of_named (hopen : world.state.closed = false) {suite : TestSuite}
    (h : world.state.find? .testSuite config.source.serviceName = some suite.toJson) :
    ∃ journal, Effect.attempt (alone config).suites world =
      (.ok [suite], ⟨world.state, journal⟩) := by
  have hfind : Effect.attempt
      ((alone config).client.find TestSuite config.source.serviceName []) world =
        (.ok (some suite), world) :=
    attempt_find_some hopen TestSuite.reads h []
  obtain ⟨journal, hnamed⟩ : ∃ journal, Effect.attempt (alone config).namedSuite world =
      (.ok (some suite), ⟨world.state, journal⟩) :=
    ⟨_, Effect.attempt_bind_ok hfind _⟩
  exact ⟨journal, Effect.attempt_bind_ok hnamed _⟩

/-- Suites are resolved in one of two ways: by the name of the service, which changes nothing, or,
where nothing has that name, one declaration after the other. -/
theorem resolution_of_suites (hopen : world.state.closed = false)
    (hwell : world.state.WellFormed) {suites : List TestSuite} {next : World MemoryCatalog}
    (h : Effect.attempt (alone config).suites world = (.ok suites, next)) :
    (∃ suite : TestSuite,
      world.state.find? .testSuite config.source.serviceName = some suite.toJson ∧
        suites = [suite] ∧ next.state = world.state) ∨
    (world.state.find? .testSuite config.source.serviceName = none ∧
      Resolves world.state config.testSuites suites next.state) := by
  cases hfind : world.state.find? .testSuite config.source.serviceName with
  | none =>
      right
      rw [attempt_suites hopen hfind] at h
      exact ⟨rfl, resolves_suitesOf hopen hwell h⟩
  | some value =>
      left
      obtain ⟨suite, -, rfl⟩ := hwell.exists_suite hfind
      obtain ⟨journal, hnamed⟩ := attempt_suites_of_named hopen hfind
      rw [hnamed] at h
      cases h
      exact ⟨suite, rfl, rfl, rfl⟩

/-! ## Resolving again -/

/-- Resolving again, in a catalog that has the same suites, changes nothing. It gives the same
suites exactly if the suite of the service does not come to stand for others, and that suite alone
if it does. -/
theorem exists_suites_again (hopen : world.state.closed = false)
    (hwell : world.state.WellFormed) {suites : List TestSuite}
    {next later : World MemoryCatalog}
    (h : Effect.attempt (alone config).suites world = (.ok suites, next))
    (hlater : next.state.Agrees later.state) :
    ∃ found journal,
      Effect.attempt (alone config).suites later = (.ok found, ⟨later.state, journal⟩) ∧
      (found = suites ↔ world.state.Settles config) ∧
      (¬world.state.Settles config → ∃ suite ∈ suites,
        Entity.key suite = config.source.serviceName ∧ found = [suite]) := by
  have hsame : ∀ name, later.state.find? .testSuite name = next.state.find? .testSuite name :=
    hlater.find?_eq (by decide)
  rcases resolution_of_suites hopen hwell h with
    ⟨suite, hnamed, rfl, hstate⟩ | ⟨hnone, hresolves⟩
  · have hopenLater : later.state.closed = false := by
      rw [hlater.closed_eq, hstate, hopen]
    have hsettles : world.state.Settles config := by
      left
      rw [hnamed]
      rfl
    have hnamedLater : later.state.find? .testSuite config.source.serviceName =
        some suite.toJson := by
      rw [hsame, hstate, hnamed]
    obtain ⟨journal, hagain⟩ := attempt_suites_of_named hopenLater hnamedLater
    exact ⟨[suite], journal, hagain, ⟨fun _ => hsettles, fun _ => rfl⟩,
      fun hnot => absurd hsettles hnot⟩
  · have hopenLater : later.state.closed = false := by
      rw [hlater.closed_eq, hresolves.closed_eq, hopen]
    have hfound := hresolves.all_found
    -- only a declared suite can have come to stand under the name of the service
    by_cases hdeclared : config.source.serviceName ∈ config.testSuites.map (·.name)
    · obtain ⟨d, hd, hname⟩ := List.mem_map.mp hdeclared
      obtain ⟨suite, hsuite, hstored⟩ := hfound.exists_of_mem hd
      rw [hname] at hstored
      have hstoredLater : later.state.find? .testSuite config.source.serviceName =
          some suite.toJson := by
        rw [hsame, hstored]
      obtain ⟨journal, hagain⟩ := attempt_suites_of_named hopenLater hstoredLater
      refine ⟨[suite], journal, hagain, ?_, fun _ => ⟨suite, hsuite, ?_, rfl⟩⟩
      · rw [hfound.eq_singleton_iff hsuite hdeclared]
        constructor
        · intro heq
          exact .inr (.inr heq)
        · rintro (hstored | hother | heq)
          · simp [hnone] at hstored
          · exact absurd hdeclared hother
          · exact heq
      · exact (hresolves.wellFormed hwell).suite_key hstored
    · have hsettles : world.state.Settles config := .inr (.inl hdeclared)
      have hnoneLater : later.state.find? .testSuite config.source.serviceName = none := by
        rw [hsame]
        apply hresolves.find?_eq_none hnone
        intro d hd heq
        exact hdeclared (List.mem_map.mpr ⟨d, hd, heq⟩)
      have hagain : Effect.attempt (alone config).suites later = (.ok suites, later) := by
        rw [attempt_suites hopenLater hnoneLater]
        exact attempt_suitesOf_of_found hopenLater (hlater.found hfound)
      exact ⟨suites, later.journal, hagain, ⟨fun _ => hsettles, fun _ => rfl⟩,
        fun hnot => absurd hsettles hnot⟩

end Once

variable {σ : Type} {part : Part σ MemoryCatalog} {workflow again : Workflow σ}

/-- Once suites are resolved, a run of the same configuration resolves suites in the catalog that
this left, or that a run made of it since, without changing it. It finds the same suites in the
same order exactly if one was stored under the name of the service before, or none is declared
with that name, or no other one is. Otherwise it finds the suite of the service alone. -/
theorem suites_again_iff (hclient : workflow.client = MemoryCatalog.client.lift part)
    (hagain : again.client = MemoryCatalog.client.lift part)
    (hconfig : again.config = workflow.config) {world middle later : World σ}
    {suites : List TestSuite}
    (hreachable : (part.get world.state).Reachable)
    (hopen : (part.get world.state).closed = false)
    (hfirst : Effect.attempt workflow.suites world = (.ok suites, middle))
    (hlater : (part.get middle.state).Agrees (part.get later.state)) :
    ∃ found final,
      Effect.attempt again.suites later = (.ok found, final) ∧
      part.get final.state = part.get later.state ∧
      (found = suites ↔ (part.get world.state).Settles workflow.config) ∧
      (¬(part.get world.state).Settles workflow.config → ∃ suite ∈ suites,
        Entity.key suite = workflow.config.source.serviceName ∧ found = [suite]) := by
  have hreads : ReadsThrough part workflow (alone workflow.config) := ⟨rfl, hclient⟩
  have hreadsAgain : ReadsThrough part again (alone workflow.config) := ⟨hconfig, hagain⟩
  rw [hreads.suites, part.attempt_liftExcept] at hfirst
  cases hinner : Effect.attempt (alone workflow.config).suites (part.world world) with
  | mk answer inner =>
      rw [hinner] at hfirst
      cases hfirst
      have hmiddle : part.get (part.within world inner).state = inner.state :=
        congrArg World.state (part.world_within world inner)
      rw [hmiddle] at hlater
      obtain ⟨found, journal, hfound, hiff, hnamed⟩ :=
        @exists_suites_again _ _ hopen hreachable.wellFormed _ _ (part.world later) hinner hlater
      refine ⟨found, part.within later ⟨part.get later.state, journal⟩, ?_, ?_, hiff, hnamed⟩
      · rw [hreadsAgain.suites, part.attempt_liftExcept, hfound]
        rfl
      · exact part.get_set _ _

/-! ## Suites that are not found again -/

/-- A configuration that declares, beside another one, the suite named after its service. -/
def eponymousConfig : WorkflowConfig :=
  (WorkflowConfig.ofSource "sample-data" "nightly").withTestSuite ⟨"hourly", none, []⟩
    |>.withTestSuite ⟨"nightly", none, []⟩

theorem suites_again_iff_eponymous :
    ∃ suites middle found final,
      Effect.attempt (alone eponymousConfig).suites ⟨{}, []⟩ = (.ok suites, middle) ∧
      Effect.attempt (alone eponymousConfig).suites middle = (.ok found, final) ∧
      suites.map Entity.key = ["hourly", "nightly"] ∧ found.map Entity.key = ["nightly"] := by
  have hkeys : (Effect.attempt (alone eponymousConfig).suites ⟨{}, []⟩).1.toOption.map
      (fun suites => suites.map Entity.key) = some ["hourly", "nightly"] := by
    decide +kernel
  obtain ⟨suites, hsuites, hkeys⟩ := Option.map_eq_some_iff.mp hkeys
  obtain ⟨middle, hfirst⟩ := exists_attempt_ok hsuites
  have hempty : (Part.whole.get (⟨{}, []⟩ : World MemoryCatalog).state).Reachable := .empty _
  obtain ⟨found, final, hfound, -, -, hnamed⟩ :=
    suites_again_iff rfl rfl rfl hempty rfl hfirst (Agrees.refl _)
  have hnot : ¬MemoryCatalog.Settles {} eponymousConfig := by
    rintro (hstored | hother | hone)
    · cases hstored
    · exact hother (by decide)
    · exact absurd hone (by decide)
  obtain ⟨suite, -, hkey, rfl⟩ := hnamed hnot
  refine ⟨suites, middle, [suite], final, hfirst, hfound, hkeys, ?_⟩
  rw [List.map_cons, hkey]
  rfl

/-- There is a valid configuration for which resolving suites in an empty catalog, and again in
what that leaves, gives different suites. -/
theorem exists_suites_not_again :
    ∃ (config : WorkflowConfig) (catalog : MemoryCatalog) (suites found : List TestSuite)
      (middle final : World MemoryCatalog),
      config.validate = .ok () ∧ catalog.Reachable ∧ catalog.closed = false ∧
      Effect.attempt (alone config).suites ⟨catalog, []⟩ = (.ok suites, middle) ∧
      Effect.attempt (alone config).suites middle = (.ok found, final) ∧ found ≠ suites := by
  have hfirst : (Effect.attempt (alone eponymousConfig).suites ⟨{}, []⟩).1.toOption.map
      List.length = some 2 := by
    decide +kernel
  have hsecond : (Effect.attempt (alone eponymousConfig).suites
      (Effect.attempt (alone eponymousConfig).suites ⟨{}, []⟩).2).1.toOption.map
        List.length = some 1 := by
    decide +kernel
  obtain ⟨suites, hsuites, htwo⟩ := Option.map_eq_some_iff.mp hfirst
  obtain ⟨found, hfound, hone⟩ := Option.map_eq_some_iff.mp hsecond
  obtain ⟨middle, hmiddle⟩ := exists_attempt_ok hsuites
  rw [hmiddle] at hfound
  obtain ⟨final, hfinal⟩ := exists_attempt_ok hfound
  refine ⟨eponymousConfig, {}, suites, found, middle, final, rfl, .empty _, rfl, hmiddle,
    hfinal, ?_⟩
  rintro rfl
  omega

end Workflow

end DataQuality

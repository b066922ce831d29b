import DataQuality.Proofs.Workflow.Resolution

/-!
# Providing the declared suites

Where no suite has the name of the service, every declared suite is found or created, exactly once.
The names to create are settled beforehand: those that are declared and under which no suite is
stored. If a creation is refused, resolving ends there, with what was declared before it. The
catalog gains the created suites and nothing else.
-/

namespace DataQuality

namespace MemoryCatalog

def lacksSuite (catalog : MemoryCatalog) (name : String) : Bool :=
  (catalog.find? .testSuite name).isNone

/-- The names that are declared and under which no suite is stored, each once, in the order in which
they are declared first. -/
def absentNames (catalog : MemoryCatalog) (declared : List SuiteDeclaration) : List String :=
  ((declared.map (·.name)).filter catalog.lacksSuite).eraseDups

/-- A catalog that came of another by the creation of suites under names that were free, each once,
in order. All else is as it was. -/
structure Gains (catalog : MemoryCatalog) (names : List String) (final : MemoryCatalog) :
    Prop where
  nodup : names.Nodup
  eq_beside : final =
    { catalog with
      entities := final.entities
      drawn := final.drawn
      created := catalog.created ++ names.map fun name => (.testSuite, name) }
  find?_eq : ∀ kind key, ¬(kind = .testSuite ∧ key ∈ names) →
    final.find? kind key = catalog.find? kind key
  find?_new : ∀ name ∈ names, catalog.find? .testSuite name = none ∧
    ∃ suite : TestSuite, suite.name = name ∧ final.find? .testSuite name = some suite.toJson

section Names

variable {catalog : MemoryCatalog} {declared : SuiteDeclaration} {rest : List SuiteDeclaration}

theorem absentNames_of_found {value : Json}
    (h : catalog.find? .testSuite declared.name = some value) :
    catalog.absentNames (declared :: rest) = catalog.absentNames rest := by
  have hlacks : ¬catalog.lacksSuite declared.name = true := by simp [lacksSuite, h]
  rw [absentNames, List.map_cons, List.filter_cons_of_neg hlacks, absentNames]

/-- A name that is free is the first to create, and not free any more after that. -/
theorem absentNames_of_free (h : catalog.find? .testSuite declared.name = none) :
    catalog.absentNames (declared :: rest) =
      declared.name :: (catalog.withSuite declared).absentNames rest := by
  have hlacks : catalog.lacksSuite declared.name = true := by simp [lacksSuite, h]
  rw [absentNames, List.map_cons, List.filter_cons_of_pos hlacks, List.eraseDups_cons,
    List.filter_filter, absentNames]
  refine congrArg (fun names => declared.name :: List.eraseDups names) ?_
  refine List.filter_congr fun name _ => ?_
  by_cases hname : name = declared.name
  · simp [lacksSuite, find?_withSuite, hname]
  · simp [lacksSuite, find?_withSuite, hname]

end Names

/-! ## What a catalog gains -/

variable {catalog final : MemoryCatalog}

theorem Gains.refl (catalog : MemoryCatalog) : catalog.Gains [] catalog where
  nodup := List.nodup_nil
  eq_beside := by rw [List.map_nil, List.append_nil]
  find?_eq _ _ _ := rfl
  find?_new _ hname := absurd hname List.not_mem_nil

theorem find?_withSuite_self (catalog : MemoryCatalog) (declared : SuiteDeclaration) :
    (catalog.withSuite declared).find? .testSuite declared.name =
      some (catalog.newSuite declared).toJson := by
  rw [find?_withSuite, if_pos ⟨rfl, rfl⟩]

/-- A suite that was created is there from then on, and is not gained once more. -/
theorem Gains.notMem {declared : SuiteDeclaration} {names : List String}
    (h : (catalog.withSuite declared).Gains names final) : declared.name ∉ names := by
  intro hmem
  have hnone := (h.find?_new _ hmem).1
  rw [find?_withSuite_self] at hnone
  cases hnone

/-- Gains that follow the creation of a suite. -/
theorem Gains.cons {declared : SuiteDeclaration}
    (hfree : catalog.find? .testSuite declared.name = none) {names : List String}
    (h : (catalog.withSuite declared).Gains names final) :
    catalog.Gains (declared.name :: names) final where
  nodup := List.nodup_cons.mpr ⟨h.notMem, h.nodup⟩
  eq_beside := by
    rw [h.eq_beside]
    simp [withSuite, put]
  find?_eq kind key hother := by
    rw [h.find?_eq kind key fun hnew => hother ⟨hnew.1, List.mem_cons_of_mem _ hnew.2⟩,
      find?_withSuite, if_neg]
    rintro ⟨hkind, rfl⟩
    exact hother ⟨hkind, List.mem_cons_self⟩
  find?_new name hname := by
    by_cases hsame : name = declared.name
    · subst hsame
      refine ⟨hfree, catalog.newSuite declared, rfl, ?_⟩
      rw [h.find?_eq _ _ fun hnew => h.notMem hnew.2, find?_withSuite_self]
    · obtain ⟨hnone, hstored⟩ := h.find?_new name ((List.mem_cons.mp hname).resolve_left hsame)
      rw [find?_withSuite, if_neg fun heq => hsame heq.2] at hnone
      exact ⟨hnone, hstored⟩

/-- Resolving creates the suites whose names are free, and nothing else. -/
theorem Resolves.gains {declared : List SuiteDeclaration} {suites : List TestSuite}
    (h : Resolves catalog declared suites final) :
    catalog.Gains (catalog.absentNames declared) final := by
  induction h with
  | done catalog => exact .refl catalog
  | found hfind _ ih =>
      rw [absentNames_of_found hfind]
      exact ih
  | created hfree _ ih =>
      rw [absentNames_of_free hfree]
      exact .cons hfree ih

end MemoryCatalog

namespace Workflow

open MemoryCatalog

variable {σ : Type} {part : Part σ MemoryCatalog} {workflow : Workflow σ}

/-- The suite that has the name of the service is all that resolving gives, and nothing changes.
Without one, resolving either gives the suites that stand under the declared names, of which it has
created those that were absent, or it ends at the first declaration whose suite is absent and
refused, with those created that were absent before it. -/
theorem suites_provided (hclient : workflow.client = MemoryCatalog.client.lift part)
    {world : World σ} {catalog : MemoryCatalog} (hcatalog : part.get world.state = catalog)
    (hreachable : catalog.Reachable) (hopen : catalog.closed = false) :
    (∀ value, catalog.find? .testSuite workflow.config.source.serviceName = some value →
      ∃ suite journal, value = TestSuite.toJson suite ∧
        Effect.attempt workflow.suites world = (.ok [suite], ⟨world.state, journal⟩)) ∧
    (catalog.find? .testSuite workflow.config.source.serviceName = none →
      (∃ suites next, Effect.attempt workflow.suites world = (.ok suites, next) ∧
        (∀ declared ∈ workflow.config.testSuites, ¬catalog.Rejects declared.name) ∧
        (part.get next.state).Found workflow.config.testSuites suites ∧
        catalog.Gains (catalog.absentNames workflow.config.testSuites)
          (part.get next.state)) ∨
      ∃ before declared after next,
        workflow.config.testSuites = before ++ declared :: after ∧
        Effect.attempt workflow.suites world =
          (.error (.refused 400 s!"rejected create of {declared.name}"), next) ∧
        (∀ other ∈ before, ¬catalog.Rejects other.name) ∧ catalog.Rejects declared.name ∧
        catalog.Gains (catalog.absentNames before) (part.get next.state)) := by
  subst hcatalog
  have hreads : ReadsThrough part workflow (alone workflow.config) := ⟨rfl, hclient⟩
  have hwell := hreachable.wellFormed
  rw [hreads.suites, part.attempt_liftExcept]
  constructor
  · intro value hnamed
    obtain ⟨suite, -, rfl⟩ := hwell.exists_suite hnamed
    obtain ⟨journal, hrun⟩ :=
      @attempt_suites_of_named workflow.config (part.world world) hopen suite hnamed
    refine ⟨suite, journal, rfl, ?_⟩
    rw [hrun]
    exact congrArg (fun state => (_, World.mk state journal)) (part.set_get world.state)
  · intro hnone
    obtain ⟨answer, next, hrun, hends⟩ :=
      @exists_ends_suitesOf workflow.config (part.world world) hopen hwell
        workflow.config.testSuites
    have hget : part.get (part.within world next).state = next.state :=
      congrArg World.state (part.world_within world next)
    rw [@attempt_suites workflow.config (part.world world) hopen hnone, hrun]
    generalize workflow.config.testSuites = declared at hends
    cases hends with
    | resolved hresolves hall =>
        refine .inl ⟨_, _, rfl, hall, ?_, ?_⟩
        · rw [hget]
          exact hresolves.all_found
        · rw [hget]
          exact hresolves.gains
    | rejected hresolves hbefore hrejects =>
        refine .inr ⟨_, _, _, _, rfl, rfl, hbefore, hrejects, ?_⟩
        rw [hget]
        exact hresolves.gains

/-- A catalog that has the suite `daily` and refuses one of the name `weekly`. -/
def refusingCatalog : MemoryCatalog :=
  let empty : MemoryCatalog := {}
  let daily : TestSuite := ⟨.ofNat 1, "daily", none, none⟩
  (empty.insert daily).refuse "weekly"

/-- A configuration that declares one suite twice, and others behind the one that is refused. -/
def repeatingConfig : WorkflowConfig :=
  let suite (name : String) : SuiteDeclaration := ⟨name, none, []⟩
  ["hourly", "daily", "hourly", "weekly", "monthly"].foldl
    (fun config name => config.withTestSuite (suite name))
    (WorkflowConfig.ofSource "sample-data" "nightly")

theorem suites_provided_refused :
    ∃ next, Effect.attempt (alone repeatingConfig).suites ⟨refusingCatalog, []⟩ =
        (.error (.refused 400 "rejected create of weekly"), next) ∧
      next.state.created = [(.testSuite, "hourly")] := by
  have hreachable : refusingCatalog.Reachable :=
    .refuse _ (.insert (.empty _) (.testSuite ⟨.ofNat 1, "daily", none, none⟩))
  obtain ⟨-, hprovided⟩ :=
    @suites_provided _ Part.whole (alone repeatingConfig) rfl ⟨refusingCatalog, []⟩ _ rfl
      hreachable rfl
  have hweekly : refusingCatalog.Rejects "weekly" := ⟨List.mem_cons_self, rfl⟩
  rcases hprovided rfl with ⟨-, -, -, hall, -⟩ |
    ⟨before, declared, after, next, hsplit, hrun, -, hrejects, hgains⟩
  · exact absurd hweekly (hall ⟨"weekly", none, []⟩ (by decide))
  · have hname : declared.name = "weekly" := List.mem_singleton.mp hrejects.1
    have hmap := congrArg (List.map (·.name)) hsplit
    rw [List.map_append, List.map_cons, hname] at hmap
    have hdeclared : (alone repeatingConfig).config.testSuites.map (·.name) =
        ["hourly", "daily", "hourly"] ++ "weekly" :: ["monthly"] := rfl
    rw [hdeclared] at hmap
    have hnames := ((List.append_cons_inj_of_notMem (by decide) (by decide)).mp hmap).1
    rw [hname] at hrun
    refine ⟨next, hrun, ?_⟩
    have hcreated := congrArg MemoryCatalog.created hgains.eq_beside
    rw [absentNames, ← hnames] at hcreated
    exact hcreated

end Workflow

end DataQuality

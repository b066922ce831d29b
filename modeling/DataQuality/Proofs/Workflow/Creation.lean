import DataQuality.Proofs.Workflow.Lift
import Mathlib.Data.List.Nodup

/-!
# Creating declared test cases

What a run tries to create and what comes of it, observed along the run: which declarations are
missing beside the listed test cases, which of them are created and which fail. The working set is
what was listed, completed with what was created.
-/

namespace DataQuality

variable {σ κ : Type}

namespace Declared

/-! ## What is missing -/

theorem mem_firstOutside {names : List String} {declared : List Declared} {d : Declared}
    (h : d ∈ firstOutside names declared) : d ∈ declared ∧ d.name ∉ names := by
  induction declared generalizing names with
  | nil => cases h
  | cons first rest ih =>
      rw [firstOutside] at h
      split at h
      next => exact ⟨List.mem_cons_of_mem _ (ih h).1, (ih h).2⟩
      next hname =>
        rcases List.mem_cons.mp h with rfl | h
        · exact ⟨List.mem_cons_self, hname⟩
        · obtain ⟨hmem, houtside⟩ := ih h
          exact ⟨List.mem_cons_of_mem _ hmem, fun hd => houtside (List.mem_cons_of_mem _ hd)⟩

/-- What is missing beside further names is what is missing, but for those names. -/
theorem firstOutside_of_mem_iff {names names' others : List String}
    (h : ∀ name, name ∈ names' ↔ name ∈ names ∨ name ∈ others) (declared : List Declared) :
    firstOutside names' declared =
      (firstOutside names declared).filter fun d => d.name ∉ others := by
  induction declared generalizing names names' with
  | nil => rfl
  | cons first rest ih =>
      simp only [firstOutside]
      by_cases hname : first.name ∈ names
      · rw [if_pos ((h _).mpr (.inl hname)), if_pos hname, ih h]
      · rw [if_neg hname]
        have hcons : ∀ name, name ∈ first.name :: names' ↔
            name ∈ first.name :: names ∨ name ∈ others := by
          intro name
          rw [List.mem_cons, List.mem_cons, h, or_assoc]
        -- a name among the others is passed over on the left and filtered out on the right
        by_cases hother : first.name ∈ others
        · have hsame : ∀ name, name ∈ names' ↔ name ∈ first.name :: names ∨ name ∈ others := by
            intro name
            rw [← hcons, List.mem_cons]
            refine ⟨.inr, fun hmem => hmem.elim (fun heq => ?_) id⟩
            exact heq ▸ (h _).mpr (.inr hother)
          rw [if_pos ((h _).mpr (.inr hother)), ih hsame]
          simp [hother]
        · rw [if_neg fun hmem => ((h _).mp hmem).elim hname hother, ih hcons]
          simp [hother]

/-- No name is missing twice. -/
theorem nodup_firstOutside (names : List String) (declared : List Declared) :
    ((firstOutside names declared).map name).Nodup := by
  induction declared generalizing names with
  | nil => exact List.nodup_nil
  | cons first rest ih =>
      rw [firstOutside]
      split
      next => exact ih names
      next =>
        refine List.nodup_cons.mpr ⟨fun hmem => ?_, ih _⟩
        obtain ⟨d, hd, hname⟩ := List.mem_map.mp hmem
        exact (mem_firstOutside hd).2 (hname ▸ List.mem_cons_self)

/-! ## What comes of it -/

/-- What the creation of each declaration gives, when one is created after the other. -/
def answers (client : CatalogClient σ) :
    List Declared → World σ → List (Declared × Except CatalogError TestCase)
  | [], _ => []
  | declared :: rest, world =>
      (declared, (Effect.attempt (declared.create client) world).1) ::
        answers client rest ((createAll client [declared]).run world).2

/-- The test cases among answers. -/
def created (answers : List (Declared × Except CatalogError TestCase)) : List TestCase :=
  answers.filterMap fun answer => answer.2.toOption

/-- The declarations that fail. -/
def failing (answers : List (Declared × Except CatalogError TestCase)) : List Declared :=
  (answers.filter fun answer => !answer.2.toBool).map (·.1)

/-- If no name comes twice, the declarations that fail are those whose names are not among the
created ones. -/
theorem failing_eq_filter {answers : List (Declared × Except CatalogError TestCase)}
    (hnodup : ((answers.map (·.1)).map name).Nodup)
    (hname : ∀ declared testCase, (declared, .ok testCase) ∈ answers →
      testCase.name = declared.name) :
    failing answers =
      (answers.map (·.1)).filter fun d => d.name ∉ (created answers).map (·.name) := by
  rw [List.filter_map, failing]
  refine congrArg (List.map _) (List.filter_congr fun answer hanswer => ?_)
  obtain ⟨declared, answered⟩ := answer
  rw [Bool.eq_iff_iff]
  cases answered with
  | ok testCase =>
      have hmem : declared.name ∈ (created answers).map (·.name) :=
        List.mem_map.mpr ⟨testCase, List.mem_filterMap.mpr ⟨_, hanswer, rfl⟩,
          hname declared testCase hanswer⟩
      exact ⟨fun h => absurd h Bool.false_ne_true, fun h => absurd hmem (of_decide_eq_true h)⟩
  | error e =>
      have hmem : declared.name ∉ (created answers).map (·.name) := by
        intro hmem
        obtain ⟨testCase, hcreated, heq⟩ := List.mem_map.mp hmem
        obtain ⟨⟨other, answered⟩, hother, hok⟩ := List.mem_filterMap.mp hcreated
        cases answered with
        | error e => cases hok
        | ok found =>
            cases hok
            rw [List.map_map] at hnodup
            -- the creation that has the name would be the one that failed
            have hsame := List.inj_on_of_nodup_map hnodup hother hanswer
              ((hname other testCase hother).symm.trans heq)
            cases hsame
      exact ⟨fun _ => decide_eq_true hmem, fun _ => rfl⟩

variable (client : CatalogClient σ)

theorem answers_declared (pending : List Declared) (world : World σ) :
    (answers client pending world).map (·.1) = pending := by
  induction pending generalizing world with
  | nil => rfl
  | cons declared rest ih => simp only [answers, List.map_cons, ih]

theorem run_createAll_cons (declared : Declared) (rest : List Declared) (world : World σ) :
    (createAll client (declared :: rest)).run world =
      (((createAll client [declared]).run world).1 ++
          ((createAll client rest).run ((createAll client [declared]).run world).2).1,
        ((createAll client rest).run ((createAll client [declared]).run world).2).2) := by
  simp only [createAll, Effect.run_bind]
  cases (declared.create client).run.run world with
  | mk answer next =>
      cases answer with
      | ok testCase => rfl
      | error e => rfl

theorem run_createAll_singleton (declared : Declared) (world : World σ) :
    ((createAll client [declared]).run world).1 =
      (Effect.attempt (declared.create client) world).1.toOption.toList := by
  have hrun : Effect.attempt (declared.create client) world =
      (declared.create client).run.run world := rfl
  simp only [createAll, Effect.run_bind, hrun]
  cases (declared.create client).run.run world with
  | mk answer next =>
      cases answer with
      | ok testCase => rfl
      | error e => rfl

/-- Whether it fails is logged, beside what the creation does. -/
theorem state_createAll_singleton (declared : Declared) (world : World σ) :
    ((createAll client [declared]).run world).2.state =
      (Effect.attempt (declared.create client) world).2.state := by
  have hrun : Effect.attempt (declared.create client) world =
      (declared.create client).run.run world := rfl
  simp only [createAll, Effect.run_bind, hrun]
  cases (declared.create client).run.run world with
  | mk answer next =>
      cases answer with
      | ok testCase => rfl
      | error e => rfl

/-- Creating gives the test cases among the answers. -/
theorem run_createAll (pending : List Declared) (world : World σ) :
    ((createAll client pending).run world).1 = created (answers client pending world) := by
  induction pending generalizing world with
  | nil => rfl
  | cons declared rest ih =>
      rw [run_createAll_cons, run_createAll_singleton, ih, answers, created, created,
        List.filterMap_cons]
      cases (Effect.attempt (declared.create client) world).1.toOption with
      | none => rfl
      | some testCase => rfl

theorem answers_lift (part : Part σ κ) (client : CatalogClient κ) (pending : List Declared)
    (world : World σ) :
    answers (client.lift part) pending world = answers client pending (part.world world) := by
  induction pending generalizing world with
  | nil => rfl
  | cons declared rest ih =>
      simp only [answers, create_lift, part.attempt_liftExcept, createAll_lift, part.run_lift, ih,
        part.world_within]

/-- What comes of declarations that reconciliation finds missing. -/
def reconciled (client : CatalogClient σ) (missing : List Declared) (world : World σ) :
    List (Declared × Except CatalogError TestCase) :=
  answers client missing
    ((Effect.log .info s!"Creating {missing.length} missing test cases").run world).2

theorem reconciled_declared (missing : List Declared) (world : World σ) :
    (reconciled client missing world).map (·.1) = missing :=
  answers_declared client missing _

/-- Reconciliation completes the stored test cases with the created ones. -/
theorem run_reconcile (suites : List SuiteDeclaration) (stored : List TestCase)
    (world : World σ) :
    ((reconcile client suites stored).run world).1 =
      stored ++ created (reconciled client (pending (ofSuites suites) stored) world) := by
  unfold reconcile
  split
  next h =>
    rw [h]
    exact (List.append_nil stored).symm
  next first rest h =>
    rw [h, reconciled, ← run_createAll]
    rfl

end Declared

/-! ## The creations of a run -/

namespace Workflow

/-- The test cases that are stored for the suites of a run. -/
def listing (workflow : Workflow σ) : CatalogM σ (List TestCase) := do
  let suites ← workflow.suites
  if suites.isEmpty then
    Effect.note .warn
      s!"No test suite found for {workflow.config.source.serviceName} and none declared"
  workflow.storedCases suites

/-- The declarations that are missing beside stored test cases. -/
def missing (workflow : Workflow σ) (stored : List TestCase) : List Declared :=
  Declared.pending (Declared.ofSuites workflow.config.testSuites) stored

/-- What a run tries to create, and what comes of it. -/
def creations (workflow : Workflow σ) (world : World σ) :
    List (Declared × Except CatalogError TestCase) :=
  match Effect.attempt workflow.listing world with
  | (.ok stored, loaded) =>
      Declared.reconciled workflow.client (workflow.missing stored) loaded
  | (.error _, _) => []

variable {workflow : Workflow σ}

/-- Once the test cases are listed, a run tries to create all declarations that are missing. -/
theorem creations_eq {world loaded : World σ} {stored : List TestCase}
    (hlist : Effect.attempt workflow.listing world = (.ok stored, loaded)) :
    workflow.creations world =
      Declared.reconciled workflow.client (workflow.missing stored) loaded := by
  rw [creations, hlist]

theorem creations_declared {world loaded : World σ} {stored : List TestCase}
    (hlist : Effect.attempt workflow.listing world = (.ok stored, loaded)) :
    (workflow.creations world).map (·.1) = workflow.missing stored := by
  rw [creations_eq hlist, Declared.reconciled_declared]

variable (workflow)

theorem testCases_eq (suites : List TestSuite) :
    workflow.testCases suites =
      (workflow.storedCases suites >>= fun stored =>
        ExceptT.lift
          (Declared.reconcile workflow.client workflow.config.testSuites stored)) := by
  refine congrArg (bind _) (funext fun stored => ?_)
  split
  next h =>
    rw [List.isEmpty_iff.mp h]
    rfl
  next => rfl

/-- The working set is what is listed, reconciled with the declarations. -/
theorem workingSet_eq :
    workflow.workingSet =
      (workflow.listing >>= fun stored =>
        ExceptT.lift
          (Declared.reconcile workflow.client workflow.config.testSuites stored)) := by
  simp only [workingSet, listing, testCases_eq, bind_assoc]
  refine congrArg (bind _) (funext fun suites => ?_)
  split
  next => rw [bind_assoc]
  next => rfl

variable {workflow} {part : Part σ κ} {inner : Workflow κ}

/-- A working set that is found has what is listed, and what is created beside it. -/
theorem exists_listing {world loaded : World σ} {working : List TestCase}
    (h : Effect.attempt workflow.workingSet world = (.ok working, loaded)) :
    ∃ stored listed, Effect.attempt workflow.listing world = (.ok stored, listed) ∧
      ((Declared.reconcile workflow.client workflow.config.testSuites stored).run listed).2 =
        loaded ∧
      working = stored ++ Declared.created (workflow.creations world) := by
  rw [workingSet_eq] at h
  obtain ⟨stored, listed, hlisting, hreconcile⟩ := Effect.exists_of_attempt_bind h
  rw [Effect.attempt_lift] at hreconcile
  cases hreconcile
  refine ⟨stored, listed, hlisting, rfl, ?_⟩
  rw [creations_eq hlisting, missing, Declared.run_reconcile]

theorem Consults.listing {sim : Simulation σ κ} (h : Consults sim workflow inner) :
    sim.Tries workflow.listing inner.listing := by
  refine h.suites.bind fun suites => ?_
  rw [h.config_eq]
  split
  next => exact (sim.tries_note _ _).bind fun _ => h.storedCases suites
  next => exact h.storedCases suites

theorem ReadsThrough.listing (h : ReadsThrough part workflow inner) :
    workflow.listing = part.liftExcept inner.listing := h.consults.listing

theorem ReadsThrough.creations (h : ReadsThrough part workflow inner) (world : World σ) :
    workflow.creations world = inner.creations (part.world world) := by
  rw [Workflow.creations, Workflow.creations, h.listing, part.attempt_liftExcept]
  cases Effect.attempt inner.listing (part.world world) with
  | mk answer loaded =>
      cases answer with
      | error e => rfl
      | ok stored =>
          simp only [Declared.reconciled, h.client_eq, Declared.answers_lift, missing,
            h.config_eq, part.world_log, part.world_within]

end Workflow

end DataQuality

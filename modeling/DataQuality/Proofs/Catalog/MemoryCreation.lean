import DataQuality.Proofs.Catalog.MemoryClient
import DataQuality.Proofs.Workflow.Creation

/-!
# Creating in a catalog in memory

In a catalog in memory a creation puts one document under one key, or fails and changes nothing.
Whether it fails depends on nothing that creations change, so that a declaration fails again in
the catalog that the others leave.
-/

namespace DataQuality

namespace MemoryCatalog

open Declared

/-- What the creation of a declaration in a catalog gives, up to the identifier. -/
structure Yields (catalog : MemoryCatalog) (declared : Declared) (testCase : TestCase) :
    Prop where
  definition : catalog.reference .testDefinition declared.testCase.definitionName =
    .ok testCase.testDefinition
  suite : catalog.reference .testSuite declared.suite.name = .ok testCase.testSuite
  accepted : declared.name ∉ catalog.refusing
  key_eq : testCaseName declared.name declared.testCase.entityLink = .ok testCase.key
  name_eq : testCase.name = declared.name
  fullyQualifiedName_eq : testCase.fullyQualifiedName = some testCase.key
  description_eq : testCase.description = declared.testCase.description
  entityLink_eq : testCase.entityLink = declared.testCase.entityLink
  parameterValues_eq : testCase.parameterValues = declared.testCase.parameterValues

/-- A catalog with one more test case, or one in place of another. -/
def Stores (catalog : MemoryCatalog) (testCase : TestCase) (next : MemoryCatalog) : Prop :=
  ∃ drawn created, catalog.drawn ≤ drawn ∧
    next = { catalog.put .testCase testCase.key testCase.toJson with drawn, created }

/-- Two catalogs agree on everything that decides about a creation. -/
structure Agrees (catalog catalog' : MemoryCatalog) : Prop where
  entities_eq : ∀ kind, kind ≠ .testCase → catalog'.entities kind = catalog.entities kind
  refusing_eq : catalog'.refusing = catalog.refusing
  closed_eq : catalog'.closed = catalog.closed

theorem Agrees.symm {catalog catalog' : MemoryCatalog} (h : catalog.Agrees catalog') :
    catalog'.Agrees catalog :=
  ⟨fun kind hkind => (h.entities_eq kind hkind).symm, h.refusing_eq.symm, h.closed_eq.symm⟩

theorem Agrees.trans {first second third : MemoryCatalog} (h : first.Agrees second)
    (h' : second.Agrees third) : first.Agrees third :=
  ⟨fun kind hkind => (h'.entities_eq kind hkind).trans (h.entities_eq kind hkind),
    h'.refusing_eq.trans h.refusing_eq, h'.closed_eq.trans h.closed_eq⟩

theorem Agrees.find?_eq {catalog catalog' : MemoryCatalog} (h : catalog.Agrees catalog')
    {kind : EntityKind} (hkind : kind ≠ .testCase) (name : String) :
    catalog'.find? kind name = catalog.find? kind name := by
  rw [find?, find?, h.entities_eq kind hkind]

/-- Where catalogs agree, declarations yield the same. -/
theorem Agrees.yields {catalog catalog' : MemoryCatalog} (h : catalog.Agrees catalog')
    {declared : Declared} {testCase : TestCase} (hyields : catalog.Yields declared testCase) :
    catalog'.Yields declared testCase where
  definition := by
    rw [reference, h.find?_eq (by decide)]
    exact hyields.definition
  suite := by
    rw [reference, h.find?_eq (by decide)]
    exact hyields.suite
  accepted := h.refusing_eq ▸ hyields.accepted
  key_eq := hyields.key_eq
  name_eq := hyields.name_eq
  fullyQualifiedName_eq := hyields.fullyQualifiedName_eq
  description_eq := hyields.description_eq
  entityLink_eq := hyields.entityLink_eq
  parameterValues_eq := hyields.parameterValues_eq

theorem Stores.agrees {catalog next : MemoryCatalog} {testCase : TestCase}
    (h : catalog.Stores testCase next) : catalog.Agrees next := by
  obtain ⟨drawn, created, -, rfl⟩ := h
  exact ⟨fun kind hkind => if_neg hkind, rfl, rfl⟩

variable {world : World MemoryCatalog}

/-- A creation either fails, changing nothing, or stores what the declaration yields. -/
theorem attempt_create (hopen : world.state.closed = false) (declared : Declared) :
    (∃ e, Effect.attempt (declared.create client) world = (.error e, world) ∧
      ∀ testCase, ¬world.state.Yields declared testCase) ∨
    ∃ testCase next,
      Effect.attempt (declared.create client) world =
        (.ok testCase, { world with state := next }) ∧
      world.state.Yields declared testCase ∧ world.state.Stores testCase next := by
  unfold Declared.create
  rw [Effect.attempt_bind, attempt_reference hopen]
  cases hdefinition : world.state.reference .testDefinition declared.testCase.definitionName with
  | error e =>
      refine .inl ⟨e, rfl, fun testCase hyields => ?_⟩
      cases hdefinition.symm.trans hyields.definition
  | ok testDefinition =>
      dsimp only
      rw [Effect.attempt_bind, attempt_reference hopen]
      cases hsuite : world.state.reference .testSuite declared.suite.name with
      | error e =>
          refine .inl ⟨e, rfl, fun testCase hyields => ?_⟩
          cases hsuite.symm.trans hyields.suite
      | ok testSuite =>
          dsimp only
          rw [client.create_of_kind (α := TestCase) rfl, Effect.attempt_bind,
            attempt_createOrUpdate hopen]
          simp only [CreateRequest.name]
          by_cases hrefused : declared.testCase.name ∈ world.state.refusing
          · simp only [hrefused, if_true]
            exact .inl ⟨_, rfl, fun testCase hyields => hyields.accepted hrefused⟩
          · simp only [hrefused, if_false, requestedName]
            cases hfqn : testCaseName declared.testCase.name declared.testCase.entityLink with
            | error e =>
                refine .inl ⟨e, rfl, fun testCase hyields => ?_⟩
                cases hfqn.symm.trans hyields.key_eq
            | ok fqn =>
                refine .inr ?_
                obtain ⟨id, drawn, created, hdrawn, hstore⟩ := world.state.exists_store
                  (.testCase ⟨declared.testCase.name, declared.testCase.description,
                    declared.testCase.entityLink, testDefinition, testSuite,
                    declared.testCase.parameterValues⟩) fqn
                simp only [hstore]
                refine ⟨⟨id, declared.testCase.name, some fqn, declared.testCase.description,
                    declared.testCase.entityLink, testSuite, testDefinition,
                    declared.testCase.parameterValues⟩, _,
                  attempt_decoded_toJson TestCase.reads _, ?_, drawn, created, hdrawn, rfl⟩
                exact
                  { definition := hdefinition
                    suite := hsuite
                    accepted := hrefused
                    key_eq := hfqn
                    name_eq := rfl
                    fullyQualifiedName_eq := rfl
                    description_eq := rfl
                    entityLink_eq := rfl
                    parameterValues_eq := rfl }

/-- Creations one after the other, from one catalog to another. -/
inductive Creations :
    MemoryCatalog → List (Declared × Except CatalogError TestCase) → MemoryCatalog → Prop where
  | done (catalog : MemoryCatalog) : Creations catalog [] catalog
  | created {catalog next final : MemoryCatalog} {declared : Declared} {testCase : TestCase}
      {answers : List (Declared × Except CatalogError TestCase)} :
      catalog.Yields declared testCase → catalog.Stores testCase next →
      Creations next answers final →
      Creations catalog ((declared, .ok testCase) :: answers) final
  | failed {catalog final : MemoryCatalog} {declared : Declared} {e : CatalogError}
      {answers : List (Declared × Except CatalogError TestCase)} :
      (∀ testCase, ¬catalog.Yields declared testCase) → Creations catalog answers final →
      Creations catalog ((declared, .error e) :: answers) final

theorem creations_createAll (pending : List Declared) (world : World MemoryCatalog)
    (hopen : world.state.closed = false) :
    Creations world.state (answers client pending world)
      ((createAll client pending).run world).2.state := by
  induction pending generalizing world with
  | nil => exact .done world.state
  | cons declared rest ih =>
      rw [run_createAll_cons, answers]
      have hstate := state_createAll_singleton client declared world
      have hrest := ih ((createAll client [declared]).run world).2
      obtain ⟨e, hattempt, hfails⟩ | ⟨testCase, next, hattempt, hyields, hstores⟩ :=
        attempt_create hopen declared
      · rw [hattempt] at hstate ⊢
        rw [hstate] at hrest
        exact .failed hfails (hrest hopen)
      · rw [hattempt] at hstate ⊢
        rw [hstate] at hrest
        exact .created hyields hstores (hrest (hstores.agrees.closed_eq.trans hopen))

theorem creations_reconcile (suites : List SuiteDeclaration) (stored : List TestCase)
    (world : World MemoryCatalog) (hopen : world.state.closed = false) :
    Creations world.state
      (reconciled client (pending (ofSuites suites) stored) world)
      ((reconcile client suites stored).run world).2.state := by
  unfold reconcile
  split
  next h =>
    rw [h]
    exact .done world.state
  next first rest h =>
    rw [h]
    exact creations_createAll (first :: rest) ((Effect.log .info _).run world).2 hopen

/-! ## What creations change -/

/-- The last of some test cases under a key. -/
def latest (key : String) : List TestCase → Option TestCase
  | [] => none
  | testCase :: rest =>
      (latest key rest).or (if testCase.key = key then some testCase else none)

theorem mem_of_latest {key : String} {testCases : List TestCase} {testCase : TestCase}
    (h : latest key testCases = some testCase) : testCase ∈ testCases ∧ testCase.key = key := by
  induction testCases with
  | nil => cases h
  | cons first rest ih =>
      rw [latest] at h
      cases hrest : latest key rest with
      | some later =>
          rw [hrest] at h
          cases h
          exact ⟨List.mem_cons_of_mem _ (ih hrest).1, (ih hrest).2⟩
      | none =>
          rw [hrest, Option.none_or] at h
          split at h
          next heq =>
            cases h
            exact ⟨List.mem_cons_self, heq⟩
          next => cases h

/-- Under the key of any of the test cases there is a last one. -/
theorem isSome_latest {testCases : List TestCase} {testCase : TestCase}
    (h : testCase ∈ testCases) : (latest testCase.key testCases).isSome := by
  induction testCases with
  | nil => cases h
  | cons first rest ih =>
      rw [latest]
      rcases List.mem_cons.mp h with rfl | hrest
      · rw [if_pos rfl, Option.isSome_or, Option.isSome_some, Bool.or_true]
      · rw [Option.isSome_or, ih hrest, Bool.true_or]

theorem latest_eq_none {key : String} {testCases : List TestCase}
    (h : ∀ testCase ∈ testCases, testCase.key ≠ key) : latest key testCases = none := by
  cases hlatest : latest key testCases with
  | none => rfl
  | some testCase =>
      obtain ⟨hmem, hkey⟩ := mem_of_latest hlatest
      exact absurd hkey (h testCase hmem)

/-- Without repeated keys, every test case is the last under its key. -/
theorem latest_of_nodup {testCases : List TestCase} (h : (testCases.map (·.key)).Nodup)
    {testCase : TestCase} (hmem : testCase ∈ testCases) :
    latest testCase.key testCases = some testCase := by
  induction testCases with
  | nil => cases hmem
  | cons first rest ih =>
      obtain ⟨hfirst, hrest⟩ := List.nodup_cons.mp h
      rw [latest]
      rcases List.mem_cons.mp hmem with rfl | hmem
      · have hnone : latest testCase.key rest = none :=
          latest_eq_none fun other hother heq =>
            hfirst (List.mem_map.mpr ⟨other, hother, heq⟩)
        rw [hnone, if_pos rfl, Option.none_or]
      · rw [ih hrest hmem, Option.some_or]

variable {catalog final : MemoryCatalog}
  {answers : List (Declared × Except CatalogError TestCase)}

/-- Under every key stands the test case that was created last under it, or what stood there. -/
theorem Creations.find?_testCase (h : Creations catalog answers final) (key : String) :
    final.find? .testCase key =
      ((latest key (Declared.created answers)).map TestCase.toJson).or
        (catalog.find? .testCase key) := by
  induction h with
  | done catalog => rfl
  | failed _ _ ih => exact ih
  | @created catalog next final declared testCase answers _ hstores _ ih =>
      obtain ⟨drawn, ledger, -, rfl⟩ := hstores
      have hput : MemoryCatalog.find?
          { catalog.put .testCase testCase.key testCase.toJson with drawn, created := ledger }
            .testCase key =
          if key = testCase.key then some testCase.toJson else catalog.find? .testCase key := by
        refine (catalog.find?_put .testCase .testCase testCase.key key testCase.toJson).trans ?_
        simp only [true_and]
      have hcreated : Declared.created ((declared, .ok testCase) :: answers) =
          testCase :: Declared.created answers := rfl
      rw [ih, hput, hcreated, latest]
      -- a later creation under the same key hides this one
      cases latest key (Declared.created answers) with
      | some later => rfl
      | none =>
          by_cases hkey : key = testCase.key
          · rw [if_pos hkey, if_pos hkey.symm]
            rfl
          · rw [if_neg hkey, if_neg fun h => hkey h.symm]
            rfl

theorem Creations.agrees (h : Creations catalog answers final) : catalog.Agrees final := by
  induction h with
  | done catalog => exact ⟨fun _ _ => rfl, rfl, rfl⟩
  | created _ hstores _ ih => exact hstores.agrees.trans ih
  | failed _ _ ih => exact ih

theorem Creations.wellFormed (h : Creations catalog answers final)
    (hwell : catalog.WellFormed) : final.WellFormed := by
  induction h with
  | done catalog => exact hwell
  | @created _ _ _ _ testCase _ _ hstores _ ih =>
      obtain ⟨drawn, ledger, -, rfl⟩ := hstores
      exact ih ((hwell.put (.testCase testCase)).of_entities rfl)
  | failed _ _ ih => exact ih hwell

theorem Creations.drawn_le (h : Creations catalog answers final) :
    catalog.drawn ≤ final.drawn := by
  induction h with
  | done catalog => exact Nat.le_refl _
  | created _ hstores _ ih =>
      obtain ⟨drawn, ledger, hdrawn, rfl⟩ := hstores
      exact Nat.le_trans hdrawn ih
  | failed _ _ ih => exact ih

/-- Every test case that is created is what its declaration yields. -/
theorem Creations.yields (h : Creations catalog answers final) {declared : Declared}
    {testCase : TestCase} (hmem : (declared, .ok testCase) ∈ answers) :
    catalog.Yields declared testCase := by
  induction h with
  | done catalog => cases hmem
  | created hyields hstores _ ih =>
      rcases List.mem_cons.mp hmem with heq | hmem
      · cases heq
        exact hyields
      · exact hstores.agrees.symm.yields (ih hmem)
  | failed _ _ ih =>
      rcases List.mem_cons.mp hmem with heq | hmem
      · cases heq
      · exact ih hmem

/-- A declaration that fails yields nothing. -/
theorem Creations.not_yields (h : Creations catalog answers final) {declared : Declared}
    {e : CatalogError} (hmem : (declared, .error e) ∈ answers) (testCase : TestCase) :
    ¬catalog.Yields declared testCase := by
  induction h with
  | done catalog => cases hmem
  | created _ hstores _ ih =>
      rcases List.mem_cons.mp hmem with heq | hmem
      · cases heq
      · exact fun hyields => ih hmem (hstores.agrees.yields hyields)
  | failed hfails _ ih =>
      rcases List.mem_cons.mp hmem with heq | hmem
      · cases heq
        exact hfails testCase
      · exact ih hmem

/-- Where no declaration yields anything, all of them fail and nothing changes. -/
theorem Creations.eq_of_not_yields (h : Creations catalog answers final)
    (hnone : ∀ answer ∈ answers, ∀ testCase, ¬catalog.Yields answer.1 testCase) :
    final = catalog ∧ Declared.created answers = [] ∧
      failing answers = answers.map (·.1) := by
  induction h with
  | done catalog => exact ⟨rfl, rfl, rfl⟩
  | created hyields _ _ _ => exact absurd hyields (hnone _ List.mem_cons_self _)
  | failed _ _ ih =>
      obtain ⟨hfinal, hcreated, hfailing⟩ :=
        ih fun answer hanswer => hnone answer (List.mem_cons_of_mem _ hanswer)
      exact ⟨hfinal, hcreated, congrArg (List.cons _) hfailing⟩

end MemoryCatalog

end DataQuality

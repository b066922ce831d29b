import DataQuality.Proofs.Catalog.Documents
import DataQuality.Proofs.Workflow.Retention
import Mathlib.Data.List.Forall2

/-!
# Completion of the working set

Which declarations reconciliation turns into test cases, when it runs on a catalog in memory. A
creation asks the catalog three times and may fail each time, but it depends only on what is
stored beside the test cases and on what is refused. Creations change neither, so that every
declaration succeeds or fails as if it were alone, and the created test cases are those of the
declarations that can be created, in order.
-/

namespace DataQuality

namespace Declared

/-- The pending declarations are the first ones of the names that are not stored. -/
theorem mem_firstOutside_iff {names : List String} {declared : List Declared} {d : Declared} :
    d ∈ firstOutside names declared ↔
      d.name ∉ names ∧ declared.find? (fun other => other.name == d.name) = some d := by
  induction declared generalizing names with
  | nil => simp [firstOutside]
  | cons first rest ih =>
      rw [firstOutside, List.find?_cons]
      by_cases hsame : first.name = d.name
      · -- only the first declaration itself can stand for its name
        simp only [hsame, beq_self_eq_true, Option.some.injEq]
        split
        next hname =>
          refine iff_of_false (fun hmem => (mem_firstOutside hmem).2 hname) ?_
          exact fun h => h.1 hname
        next hname =>
          constructor
          · intro hmem
            refine ⟨hname, ?_⟩
            rcases List.mem_cons.mp hmem with heq | hrest
            · exact heq.symm
            · exact absurd List.mem_cons_self (mem_firstOutside hrest).2
          · rintro ⟨-, rfl⟩
            exact List.mem_cons_self
      · simp only [beq_eq_false_iff_ne.mpr hsame]
        split
        next => exact ih
        next =>
          have hne : d ≠ first := fun heq => hsame (congrArg name heq.symm)
          have hnames : d.name ∉ first.name :: names ↔ d.name ∉ names := by
            simp [Ne.symm hsame]
          rw [List.mem_cons, or_iff_right hne, ih, hnames]

end Declared

/-- The reference that the document of a definition gives. -/
theorem TestDefinition.ofEntity_toJson (kind : EntityKind) (definition : TestDefinition) :
    EntityReference.ofEntity kind (Datum.ofJson definition.toJson) =
      .ok ⟨definition.id, kind.name, some definition.name, definition.fullyQualifiedName,
        definition.description⟩ := by
  refine Decoder.record_ofJson _ (by simp) fun fields hfields => ?_
  have hid : fields.required "id" Uuid.decoder = .done definition.id :=
    Fields.required_eq Uuid.reads (hfields _ (by decide))
  have hname : fields.required "name" Decoder.text = .done definition.name :=
    Fields.required_eq Decoder.reads_text (hfields _ (by decide))
  have hfqn := Fields.optionalText_eq (hfields "fullyQualifiedName" (by decide))
  have hdescription := Fields.optionalText_eq (hfields "description" (by decide))
  rw [hid, hname, hfqn, hdescription]
  rfl

namespace MemoryCatalog

open Declared

/-! ## Declarations that can be created -/

/-- What a catalog has to have for the creation of a declaration. -/
structure Creatable (catalog : MemoryCatalog) (declared : Declared) : Prop where
  /-- The test definition is stored under the declared name. -/
  definition : (catalog.find? .testDefinition declared.testCase.definitionName).isSome
  /-- The suite is stored under the name of the declaring one. -/
  suite : (catalog.find? .testSuite declared.suite.name).isSome
  accepted : declared.name ∉ catalog.refusing
  /-- The link has a table. -/
  table : (EntityLink.tableOf? declared.testCase.entityLink).isSome

instance (catalog : MemoryCatalog) (declared : Declared) : Decidable (catalog.Creatable declared) :=
  decidable_of_iff
    ((catalog.find? .testDefinition declared.testCase.definitionName).isSome ∧
      (catalog.find? .testSuite declared.suite.name).isSome ∧
      declared.name ∉ catalog.refusing ∧
      (EntityLink.tableOf? declared.testCase.entityLink).isSome)
    ⟨fun h => ⟨h.1, h.2.1, h.2.2.1, h.2.2.2⟩,
      fun h => ⟨h.definition, h.suite, h.accepted, h.table⟩⟩

/-- A test case is what was declared, and refers to the definition and the suite that the catalog
stores under the declared names. -/
structure Realizes (catalog : MemoryCatalog) (declared : Declared) (testCase : TestCase) :
    Prop where
  name_eq : testCase.name = declared.name
  description_eq : testCase.description = declared.testCase.description
  entityLink_eq : testCase.entityLink = declared.testCase.entityLink
  parameterValues_eq : testCase.parameterValues = declared.testCase.parameterValues
  testDefinition : ∃ definition : TestDefinition,
    catalog.find? .testDefinition declared.testCase.definitionName = some definition.toJson ∧
    testCase.testDefinition =
      ⟨definition.id, EntityKind.testDefinition.name, some definition.name,
        definition.fullyQualifiedName, definition.description⟩
  testSuite : ∃ suite : TestSuite,
    catalog.find? .testSuite declared.suite.name = some suite.toJson ∧
    testCase.testSuite =
      ⟨suite.id, EntityKind.testSuite.name, some suite.name, suite.fullyQualifiedName,
        suite.description⟩

theorem isSome_of_reference {catalog : MemoryCatalog} {kind : EntityKind} {name : String}
    {reference : EntityReference} (h : catalog.reference kind name = .ok reference) :
    (catalog.find? kind name).isSome := by
  unfold MemoryCatalog.reference at h
  cases hfind : catalog.find? kind name with
  | none =>
      rw [hfind] at h
      cases h
  | some value => rfl

theorem testCaseName_ok_iff (name link : String) :
    (∃ key, testCaseName name link = .ok key) ↔ (EntityLink.tableOf? link).isSome := by
  unfold testCaseName
  cases EntityLink.tableOf? link with
  | none => simp
  | some table => cases EntityLink.columnOf? link <;> simp

section WellFormed

variable {catalog : MemoryCatalog} (hwell : catalog.WellFormed)

include hwell

/-- What stands under the name of a definition gives a reference to that definition. -/
theorem WellFormed.reference_testDefinition {name : String}
    (h : (catalog.find? .testDefinition name).isSome) :
    ∃ definition : TestDefinition,
      catalog.find? .testDefinition name = some definition.toJson ∧
      catalog.reference .testDefinition name =
        .ok ⟨definition.id, EntityKind.testDefinition.name, some definition.name,
          definition.fullyQualifiedName, definition.description⟩ := by
  obtain ⟨value, hfind⟩ := Option.isSome_iff_exists.mp h
  cases hwell.document .testDefinition name value hfind with
  | testDefinition definition =>
      refine ⟨definition, hfind, ?_⟩
      simp only [MemoryCatalog.reference, hfind, TestDefinition.ofEntity_toJson]
      rfl

/-- What stands under the name of a suite gives a reference to that suite. -/
theorem WellFormed.reference_testSuite {name : String}
    (h : (catalog.find? .testSuite name).isSome) :
    ∃ suite : TestSuite,
      catalog.find? .testSuite name = some suite.toJson ∧
      catalog.reference .testSuite name =
        .ok ⟨suite.id, EntityKind.testSuite.name, some suite.name, suite.fullyQualifiedName,
          suite.description⟩ := by
  obtain ⟨value, hfind⟩ := Option.isSome_iff_exists.mp h
  cases hwell.document .testSuite name value hfind with
  | testSuite suite => exact ⟨suite, hfind, reference_of_suite hfind⟩

theorem Yields.realizes {declared : Declared} {testCase : TestCase}
    (h : catalog.Yields declared testCase) : catalog.Realizes declared testCase where
  name_eq := h.name_eq
  description_eq := h.description_eq
  entityLink_eq := h.entityLink_eq
  parameterValues_eq := h.parameterValues_eq
  testDefinition := by
    obtain ⟨definition, hfind, hreference⟩ :=
      hwell.reference_testDefinition (isSome_of_reference h.definition)
    exact ⟨definition, hfind, Except.ok.inj (h.definition.symm.trans hreference)⟩
  testSuite := by
    obtain ⟨suite, hfind, hreference⟩ := hwell.reference_testSuite (isSome_of_reference h.suite)
    exact ⟨suite, hfind, Except.ok.inj (h.suite.symm.trans hreference)⟩

/-- A declaration yields a test case exactly if it can be created. -/
theorem WellFormed.creatable_iff {declared : Declared} :
    catalog.Creatable declared ↔ ∃ testCase, catalog.Yields declared testCase := by
  constructor
  · intro h
    obtain ⟨_, -, hdefinition⟩ := hwell.reference_testDefinition h.definition
    obtain ⟨_, -, hsuite⟩ := hwell.reference_testSuite h.suite
    obtain ⟨key, hkey⟩ := (testCaseName_ok_iff declared.name _).mpr h.table
    exact ⟨⟨.ofNat 0, declared.name, some key, declared.testCase.description,
        declared.testCase.entityLink, _, _, declared.testCase.parameterValues⟩,
      { definition := hdefinition
        suite := hsuite
        accepted := h.accepted
        key_eq := hkey
        name_eq := rfl
        fullyQualifiedName_eq := rfl
        description_eq := rfl
        entityLink_eq := rfl
        parameterValues_eq := rfl }⟩
  · rintro ⟨testCase, h⟩
    exact
      { definition := isSome_of_reference h.definition
        suite := isSome_of_reference h.suite
        accepted := h.accepted
        table := (testCaseName_ok_iff _ _).mp ⟨_, h.key_eq⟩ }

/-- Creations give the declarations that can be created at the start, in order. -/
theorem Creations.realizes {answers : List (Declared × Except CatalogError TestCase)}
    {final : MemoryCatalog} (h : Creations catalog answers final) :
    List.Forall₂ catalog.Realizes
      ((answers.map (·.1)).filter fun declared => catalog.Creatable declared)
      (Declared.created answers) := by
  have hcreated : ∀ declared testCase, (declared, .ok testCase) ∈ answers →
      catalog.Yields declared testCase := fun _ _ => h.yields
  have hfailed : ∀ declared e, (declared, .error e) ∈ answers →
      ∀ testCase, ¬catalog.Yields declared testCase := fun _ _ => h.not_yields
  -- from here on only the single answers count, and not the catalogs in between
  clear h
  induction answers with
  | nil => exact .nil
  | cons answer rest ih =>
      have hrest := ih (fun declared testCase hmem => hcreated _ _ (List.mem_cons_of_mem _ hmem))
        fun declared e hmem => hfailed _ _ (List.mem_cons_of_mem _ hmem)
      obtain ⟨declared, answered⟩ := answer
      cases answered with
      | ok testCase =>
          have hyields := hcreated declared testCase List.mem_cons_self
          have hcreatable := hwell.creatable_iff.mpr ⟨testCase, hyields⟩
          rw [List.map_cons, List.filter_cons, if_pos (decide_eq_true hcreatable)]
          exact .cons (hyields.realizes hwell) hrest
      | error e =>
          have hfails : ¬catalog.Creatable declared := by
            rw [hwell.creatable_iff]
            exact not_exists.mpr (hfailed declared e List.mem_cons_self)
          rw [List.map_cons, List.filter_cons, if_neg fun h => hfails (of_decide_eq_true h)]
          exact hrest

end WellFormed

/-! ## The working set -/

/-- Test cases are realized under the names of their declarations. -/
theorem map_name_of_realizes {catalog : MemoryCatalog} {declared : List Declared}
    {created : List TestCase} (h : List.Forall₂ catalog.Realizes declared created) :
    created.map (·.name) = declared.map Declared.name := by
  induction h with
  | nil => rfl
  | cons hfirst _ ih => rw [List.map_cons, List.map_cons, hfirst.name_eq, ih]

/-- Test cases that complete the stored ones to the working set of some declarations. -/
structure Completes (catalog : MemoryCatalog) (declared : List Declared)
    (stored created : List TestCase) : Prop where
  /-- They realize the pending declarations that can be created, in order. -/
  realized : List.Forall₂ catalog.Realizes
    ((pending declared stored).filter fun declared => catalog.Creatable declared) created
  nodup_names : (created.map (·.name)).Nodup
  names_ne : ∀ testCase ∈ created, ∀ member ∈ stored, testCase.name ≠ member.name
  /-- A declared name is there if it is stored or its first declaration can be created. -/
  mem_names_iff : ∀ declaration ∈ declared,
    ∃ first, declared.find? (fun other => other.name == declaration.name) = some first ∧
      (declaration.name ∈ (stored ++ created).map (·.name) ↔
        declaration.name ∈ stored.map (·.name) ∨ catalog.Creatable first)

/-- A name is realized if its first declaration is pending and can be created. -/
theorem mem_names_of_realizes {catalog : MemoryCatalog} {declared : List Declared}
    {stored created : List TestCase}
    (h : List.Forall₂ catalog.Realizes
      ((pending declared stored).filter fun declared => catalog.Creatable declared) created)
    {first declaration : Declared}
    (hfirst : declared.find? (fun other => other.name == declaration.name) = some first)
    (houtside : declaration.name ∉ stored.map (·.name)) :
    declaration.name ∈ created.map (·.name) ↔ catalog.Creatable first := by
  have hname : first.name = declaration.name := by simpa using List.find?_some hfirst
  rw [map_name_of_realizes h, List.mem_map]
  constructor
  · rintro ⟨d, hd, heq⟩
    obtain ⟨hpending, hcreatable⟩ := List.mem_filter.mp hd
    have hsame := (mem_firstOutside_iff.mp hpending).2
    rw [heq, hfirst] at hsame
    exact Option.some.inj hsame ▸ of_decide_eq_true hcreatable
  · intro hcreatable
    refine ⟨first, List.mem_filter.mpr ⟨mem_firstOutside_iff.mpr ?_, decide_eq_true hcreatable⟩,
      hname⟩
    exact ⟨hname ▸ houtside, hname ▸ hfirst⟩

/-- Reconciliation on an open catalog returns what was stored, completed with one test case for
every pending declaration that the catalog can create, whatever becomes of the others. -/
theorem reconcile_completes {world : World MemoryCatalog} (hreach : world.state.Reachable)
    (hopen : world.state.closed = false) (suites : List SuiteDeclaration)
    (stored : List TestCase) :
    ∃ created final,
      (Declared.reconcile client suites stored).run world = (stored ++ created, final) ∧
      world.state.Completes (ofSuites suites) stored created := by
  have h := creations_reconcile suites stored world hopen
  have hpending := Declared.reconciled_declared client (pending (ofSuites suites) stored) world
  refine ⟨_, _, Prod.ext (Declared.run_reconcile client suites stored world) rfl, ?_⟩
  have hrealized := h.realizes hreach.wellFormed
  rw [hpending] at hrealized
  refine
    { realized := hrealized
      nodup_names := h.nodup_names hpending
      names_ne := fun _ hmem _ hmember => h.names_ne hpending hmem hmember
      mem_names_iff := fun declaration hmem => ?_ }
  obtain ⟨first, hfirst⟩ : ∃ first,
      (ofSuites suites).find? (fun other => other.name == declaration.name) = some first := by
    rw [← Option.isSome_iff_exists, List.find?_isSome]
    exact ⟨declaration, hmem, beq_self_eq_true _⟩
  refine ⟨first, hfirst, ?_⟩
  rw [List.map_append, List.mem_append]
  by_cases hstored : declaration.name ∈ stored.map (·.name)
  · exact iff_of_true (.inl hstored) (.inl hstored)
  · rw [or_iff_right hstored, or_iff_right hstored]
    exact mem_names_of_realizes hrealized hfirst hstored

/-- The suites `a` and `b` are stored and `c` is not. Of their declarations one needs a definition
that is not stored, one is refused, the link of one has no table and one comes twice. -/
def mixedSuites : List SuiteDeclaration :=
  [⟨"a", none,
      [⟨"early", "tableRowCountToEqual", "<#E::table::svc.db.sch.orders>", none, []⟩,
        ⟨"undefined", "columnValuesToBeOdd", "<#E::table::svc.db.sch.orders>", none, []⟩,
        ⟨"refused", "tableRowCountToEqual", "<#E::table::svc.db.sch.orders>", none, []⟩,
        ⟨"loose", "tableRowCountToEqual", "<#E::table>", none, []⟩]⟩,
    ⟨"c", none, [⟨"orphan", "tableRowCountToEqual", "<#E::table::svc.db.sch.orders>", none, []⟩]⟩,
    ⟨"b", none,
      [⟨"early", "tableRowCountToEqual", "<#E::table::svc.db.sch.late>", none, []⟩,
        ⟨"late", "tableRowCountToEqual", "<#E::table::svc.db.sch.orders::columns::id>", none,
          [⟨"value", "3"⟩]⟩]⟩]

def mixedWorld : World MemoryCatalog :=
  let suite : TestSuite := ⟨.ofNat 4, "b", none, some "second"⟩
  ⟨((dottedCatalog.insert suite).insert dottedCase).refuse "refused", []⟩

/-- Two of the declarations are created, each whatever becomes of the one before it. -/
theorem reconcile_completes_mixed :
    mixedWorld.state.Reachable ∧ mixedWorld.state.closed = false ∧
    ∃ created final,
      (Declared.reconcile client mixedSuites [dottedCase]).run mixedWorld =
        ([dottedCase] ++ created, final) ∧
      created.map (·.name) = ["early", "late"] := by
  have hreach : mixedWorld.state.Reachable := by
    refine .refuse "refused" (.insert (.insert ?_ (.testSuite _)) (.testCase dottedCase))
    exact .insert (.insert (.empty _) (.testSuite _)) (.testDefinition _)
  have hopen : mixedWorld.state.closed = false := rfl
  obtain ⟨created, final, hrun, hcompletes⟩ :=
    reconcile_completes hreach hopen mixedSuites [dottedCase]
  refine ⟨hreach, hopen, created, final, hrun, ?_⟩
  rw [map_name_of_realizes hcompletes.realized]
  decide +kernel

end MemoryCatalog

end DataQuality

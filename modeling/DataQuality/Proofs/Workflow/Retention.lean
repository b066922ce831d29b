import DataQuality.Proofs.Workflow.Preservation
import Mathlib.Data.List.Basic

/-!
# Retention of created test cases

Declarations are told apart by their bare names, but stored under fully qualified names, which are
glued together with dots. Reconciliation in a catalog in memory therefore loses a test case that
it has created, or one that was stored, exactly when a later creation has the same fully qualified
name. Gluing keeps different names apart as long as they hold no dot.
-/

namespace DataQuality

namespace MemoryCatalog

/-! ## Glued names -/

/-- A fully qualified name is what precedes the bare name, a dot, and the bare name. -/
theorem exists_qualifier {name link key : String} (h : testCaseName name link = .ok key) :
    ∃ qualifier, key.toList = qualifier ++ '.' :: name.toList := by
  unfold testCaseName at h
  split at h
  next => cases h
  next table _ =>
    split at h
    next column _ =>
      cases h
      exact ⟨table.toList ++ '.' :: column.toList, by simp [toString]⟩
    next =>
      cases h
      exact ⟨table.toList, by simp [toString]⟩

/-- Read backwards, a bare name without dots ends where the first dot stands. -/
theorem takeWhile_reverse_of_testCaseName {name link key : String}
    (h : testCaseName name link = .ok key) (hdot : '.' ∉ name.toList) :
    key.toList.reverse.takeWhile (· ≠ '.') = name.toList.reverse := by
  obtain ⟨qualifier, hkey⟩ := exists_qualifier h
  have hname : ∀ c ∈ name.toList.reverse, decide (c ≠ '.') = true := by
    intro c hc
    apply decide_eq_true
    rintro rfl
    exact hdot (List.mem_reverse.mp hc)
  rw [hkey, List.reverse_append, List.reverse_cons, List.append_assoc,
    List.takeWhile_append_of_pos hname]
  simp

/-- Names without dots are kept apart, whatever they are glued to. -/
theorem name_eq_of_testCaseName_eq {name name' link link' key : String}
    (h : testCaseName name link = .ok key) (h' : testCaseName name' link' = .ok key)
    (hdot : '.' ∉ name.toList) (hdot' : '.' ∉ name'.toList) : name = name' := by
  have hreversed := (takeWhile_reverse_of_testCaseName h hdot).symm.trans
    (takeWhile_reverse_of_testCaseName h' hdot')
  exact String.toList_inj.mp (List.reverse_injective hreversed)

/-! ## What is created -/

variable {catalog final : MemoryCatalog}
  {answers : List (Declared × Except CatalogError TestCase)}

/-- The created test cases have the names of some of the declarations, in order. -/
theorem Creations.names_sublist (h : Creations catalog answers final) :
    ((Declared.created answers).map (·.name)).Sublist ((answers.map (·.1)).map Declared.name) := by
  induction h with
  | done catalog => exact List.Sublist.refl []
  | created hyields _ _ ih =>
      rw [List.map_cons, List.map_cons, ← hyields.name_eq]
      exact ih.cons_cons _
  | failed _ _ ih => exact ih.cons _

/-- Every created test case stands under a fully qualified name glued from its link and name. -/
theorem Creations.glued (h : Creations catalog answers final) {testCase : TestCase}
    (hmem : testCase ∈ Declared.created answers) :
    testCase.fullyQualifiedName = some testCase.key ∧
      testCaseName testCase.name testCase.entityLink = .ok testCase.key := by
  obtain ⟨⟨declared, answer⟩, hanswer, hok⟩ := List.mem_filterMap.mp hmem
  cases answer with
  | error e => cases hok
  | ok created =>
      cases hok
      have hyields := h.yields hanswer
      refine ⟨hyields.fullyQualifiedName_eq, ?_⟩
      rw [hyields.name_eq, hyields.entityLink_eq]
      exact hyields.key_eq

/-! ## What is given back -/

/-- Asked for a test case by its fully qualified name, the catalog gives it. -/
def GivesBack (world : World MemoryCatalog) (testCase : TestCase) : Prop :=
  ∀ fields, Effect.attempt (client.find TestCase testCase.key fields) world =
    (.ok (some testCase), world)

theorem givesBack_iff {world : World MemoryCatalog} (hopen : world.state.closed = false)
    (testCase : TestCase) :
    GivesBack world testCase ↔
      (world.state.find? .testCase testCase.key).mapM (Entity.read TestCase) =
        .ok (some testCase) := by
  unfold GivesBack
  simp only [attempt_find hopen]
  constructor
  · intro h
    exact congrArg Prod.fst (h [])
  · intro h fields
    exact congrArg (·, world) h

/-- After creations a test case is given back if it was created last under its key, or if nothing
was created under its key and it was given back before. -/
theorem Creations.givesBack_iff {before after : World MemoryCatalog}
    (h : Creations before.state answers after.state) (hopen : before.state.closed = false)
    (testCase : TestCase) :
    GivesBack after testCase ↔
      latest testCase.key (Declared.created answers) = some testCase ∨
        latest testCase.key (Declared.created answers) = none ∧ GivesBack before testCase := by
  rw [MemoryCatalog.givesBack_iff (h.agrees.closed_eq.trans hopen),
    MemoryCatalog.givesBack_iff hopen, h.find?_testCase]
  cases latest testCase.key (Declared.created answers) with
  | none => simp
  | some later =>
      have hread : Entity.read TestCase later.toJson = .ok later :=
        Entity.read_of_ofJson (TestCase.reads later)
      rw [Option.map_some, Option.some_or, Option.mapM_some, hread]
      constructor
      · intro hsame
        cases hsame
        exact .inl rfl
      · rintro (hsame | ⟨hnone, -⟩)
        · cases hsame
          rfl
        · cases hnone

section Pending

variable {before after : World MemoryCatalog} {declared : List Declared} {stored : List TestCase}
  (h : Creations before.state answers after.state)
  (hpending : answers.map (·.1) = Declared.pending declared stored)

include h hpending

theorem Creations.nodup_names : ((Declared.created answers).map (·.name)).Nodup := by
  refine h.names_sublist.nodup ?_
  rw [hpending]
  exact Declared.nodup_firstOutside _ _

theorem Creations.names_ne {testCase member : TestCase}
    (hmem : testCase ∈ Declared.created answers) (hmember : member ∈ stored) :
    testCase.name ≠ member.name := by
  intro heq
  have hname := h.names_sublist.subset (List.mem_map_of_mem hmem)
  rw [hpending] at hname
  obtain ⟨declaration, hdeclaration, hsame⟩ := List.mem_map.mp hname
  apply (Declared.mem_firstOutside hdeclaration).2
  exact List.mem_map.mpr ⟨member, hmember, heq.symm.trans hsame.symm⟩

/-- All created test cases are given back if no two of them share a key, and only then. -/
theorem Creations.created_givenBack_iff (hopen : before.state.closed = false) :
    (∀ testCase ∈ Declared.created answers, GivesBack after testCase) ↔
      ((Declared.created answers).map (·.key)).Nodup := by
  constructor
  · intro hgiven
    have hlatest : ∀ testCase ∈ Declared.created answers,
        latest testCase.key (Declared.created answers) = some testCase := by
      intro testCase hmem
      rcases (h.givesBack_iff hopen testCase).mp (hgiven testCase hmem) with hsame | ⟨hnone, -⟩
      · exact hsame
      · exact absurd hnone (Option.isSome_iff_ne_none.mp (isSome_latest hmem))
    refine List.Nodup.map_on ?_ (List.Nodup.of_map _ (h.nodup_names hpending))
    intro testCase hmem other hother hkey
    -- both are the last one under their common key
    have hsame := hlatest other hother
    rw [← hkey, hlatest testCase hmem] at hsame
    exact Option.some.inj hsame
  · intro hnodup testCase hmem
    exact (h.givesBack_iff hopen testCase).mpr (.inl (latest_of_nodup hnodup hmem))

/-- A stored test case is given back as before if nothing is created under its key, and only
then. -/
theorem Creations.stored_givenBack_iff (hopen : before.state.closed = false) {member : TestCase}
    (hmember : member ∈ stored) (hgiven : GivesBack before member) :
    GivesBack after member ↔ ∀ testCase ∈ Declared.created answers, testCase.key ≠ member.key := by
  rw [h.givesBack_iff hopen]
  constructor
  · rintro (hsame | ⟨hnone, -⟩) testCase hmem hkey
    · exact h.names_ne hpending (mem_of_latest hsame).1 hmember rfl
    · rw [← hkey] at hnone
      exact absurd hnone (Option.isSome_iff_ne_none.mp (isSome_latest hmem))
  · intro hkeys
    exact .inr ⟨latest_eq_none hkeys, hgiven⟩

end Pending

/-- What reconciliation in a catalog keeps of the test cases that it returns. -/
structure Retention (before : World MemoryCatalog) (stored created : List TestCase)
    (after : World MemoryCatalog) : Prop where
  /-- No two of the returned test cases that were created share a bare name. -/
  nodup_names : (created.map (·.name)).Nodup
  /-- None of them has the bare name of a stored one. -/
  names_ne : ∀ testCase ∈ created, ∀ member ∈ stored, testCase.name ≠ member.name
  fullyQualifiedName_eq : ∀ testCase ∈ created, testCase.fullyQualifiedName = some testCase.key
  /-- All of them are given back if no two share a fully qualified name, and only then. -/
  created_iff : (∀ testCase ∈ created, GivesBack after testCase) ↔ (created.map (·.key)).Nodup
  /-- A stored one is still given back if none of them has its key, and only then. -/
  stored_iff : ∀ member ∈ stored, GivesBack before member →
    (GivesBack after member ↔ ∀ testCase ∈ created, testCase.key ≠ member.key)
  /-- Two of them share a fully qualified name only if one has a dot in its bare name. -/
  created_dot : ∀ testCase ∈ created, ∀ other ∈ created, testCase.key = other.key →
    testCase = other ∨ '.' ∈ testCase.name.toList ∨ '.' ∈ other.name.toList
  /-- The same holds for one of them and a stored one whose key is glued as well. -/
  stored_dot : ∀ testCase ∈ created, ∀ member ∈ stored,
    testCaseName member.name member.entityLink = .ok member.key → testCase.key = member.key →
    '.' ∈ testCase.name.toList ∨ '.' ∈ member.name.toList

/-- Reconciliation returns the stored test cases and those that it has created. All of the latter
are given back by the catalog exactly if no two of them have the same fully qualified name, and a
stored one stays exactly if none of them has its fully qualified name; bare names, by which
declarations are told apart, do not decide about it. -/
theorem reconcile_retains_iff {world : World MemoryCatalog} (hopen : world.state.closed = false)
    (suites : List SuiteDeclaration) (stored : List TestCase) :
    ∃ created final,
      (Declared.reconcile client suites stored).run world = (stored ++ created, final) ∧
      Retention world stored created final := by
  have h := creations_reconcile suites stored world hopen
  have hpending := Declared.reconciled_declared client
    (Declared.pending (Declared.ofSuites suites) stored) world
  refine ⟨_, _, Prod.ext (Declared.run_reconcile client suites stored world) rfl, ?_⟩
  refine
    { nodup_names := h.nodup_names hpending
      names_ne := fun _ hmem _ hmember => h.names_ne hpending hmem hmember
      fullyQualifiedName_eq := fun _ hmem => (h.glued hmem).1
      created_iff := h.created_givenBack_iff hpending hopen
      stored_iff := fun _ hmember => h.stored_givenBack_iff hpending hopen hmember
      created_dot := ?_
      stored_dot := ?_ }
  · intro testCase hmem other hother hkey
    by_contra hcontra
    obtain ⟨hdifferent, hdots⟩ := not_or.mp hcontra
    obtain ⟨hdot, hdot'⟩ := not_or.mp hdots
    apply hdifferent
    apply List.inj_on_of_nodup_map (h.nodup_names hpending) hmem hother
    exact name_eq_of_testCaseName_eq (h.glued hmem).2 (hkey ▸ (h.glued hother).2) hdot hdot'
  · intro testCase hmem member hmember hglued hkey
    by_contra hcontra
    obtain ⟨hdot, hdot'⟩ := not_or.mp hcontra
    apply h.names_ne hpending hmem hmember
    exact name_eq_of_testCaseName_eq (h.glued hmem).2 (hkey ▸ hglued) hdot hdot'

/-! ## Test cases that are lost -/

/-- Where two created test cases share a key, one of them is lost. -/
theorem exists_not_givesBack {world final : World MemoryCatalog}
    (hopen : world.state.closed = false) {suites : List SuiteDeclaration}
    {stored created : List TestCase}
    (hrun : (Declared.reconcile client suites stored).run world = (stored ++ created, final))
    (hshared : ¬(created.map (·.key)).Nodup) : ∃ testCase ∈ created, ¬GivesBack final testCase := by
  have h := creations_reconcile suites stored world hopen
  have hpending := Declared.reconciled_declared client
    (Declared.pending (Declared.ofSuites suites) stored) world
  have hreturned := Declared.run_reconcile client suites stored world
  rw [hrun] at h hreturned
  have hcreated := List.append_cancel_left hreturned
  rw [hcreated] at hshared ⊢
  by_contra hnone
  apply hshared
  apply (h.created_givenBack_iff hpending hopen).mp
  intro testCase hmem
  by_contra hlost
  exact hnone ⟨testCase, hmem, hlost⟩

/-- A configuration whose suite `a` declares `orders.rows` on the schema and `rows` on the table
`orders` in it. -/
def dottedConfig : WorkflowConfig :=
  (WorkflowConfig.ofSource "sample-data" "nightly").withTestSuite
    ⟨"a", none,
      [⟨"orders.rows", "tableRowCountToEqual", "<#E::table::svc.db.sch>", none, []⟩,
        ⟨"rows", "tableRowCountToEqual", "<#E::table::svc.db.sch.orders>", none, []⟩]⟩

/-- The suite `a`, and the definition of its test cases. -/
def dottedCatalog : MemoryCatalog :=
  let empty : MemoryCatalog := {}
  let suite : TestSuite := ⟨.ofNat 1, "a", none, none⟩
  let definition : TestDefinition := ⟨.ofNat 2, "tableRowCountToEqual", none, none, none⟩
  empty.insert suite |>.insert definition

/-- The test case `orders.rows`, as it is stored. -/
def dottedCase : TestCase :=
  let suite : TestSuite := ⟨.ofNat 1, "a", none, none⟩
  let definition : TestDefinition := ⟨.ofNat 2, "tableRowCountToEqual", none, none, none⟩
  ⟨.ofNat 3, "orders.rows", some "svc.db.sch.orders.rows", none, "<#E::table::svc.db.sch>",
    Entity.reference suite, Entity.reference definition, []⟩

/-- A catalog that stores `orders.rows` already. -/
def dottedWorld : World MemoryCatalog :=
  ⟨dottedCatalog.insert dottedCase, []⟩

/-- Where `orders.rows` is stored, the creation of `rows` replaces it. -/
theorem reconcile_retains_iff_dotted :
    dottedWorld.state.closed = false ∧ GivesBack dottedWorld dottedCase ∧
    ∃ created final,
      (Declared.reconcile client dottedConfig.testSuites [dottedCase]).run dottedWorld =
        ([dottedCase] ++ created, final) ∧
      ¬GivesBack final dottedCase := by
  have hopen : dottedWorld.state.closed = false := rfl
  have hgiven : GivesBack dottedWorld dottedCase :=
    fun fields => attempt_find_some hopen TestCase.reads rfl fields
  obtain ⟨created, final, hrun, hretention⟩ :=
    reconcile_retains_iff hopen dottedConfig.testSuites [dottedCase]
  refine ⟨hopen, hgiven, created, final, hrun, fun hafter => ?_⟩
  have hkeys : ((Declared.reconcile client dottedConfig.testSuites [dottedCase]).run
      dottedWorld).1.map (·.key) = ["svc.db.sch.orders.rows", "svc.db.sch.orders.rows"] := by
    decide +kernel
  rw [hrun, List.map_append] at hkeys
  obtain ⟨replacing, rfl, hkey⟩ := List.map_eq_singleton_iff.mp (List.cons.inj hkeys).2
  exact (hretention.stored_iff dottedCase List.mem_cons_self hgiven).mp hafter replacing
    List.mem_cons_self hkey

/-- There is a valid configuration with two declarations of different names, of which a catalog
that stores neither creates both and gives back one. -/
theorem exists_creation_lost :
    ∃ (config : WorkflowConfig) (catalog : MemoryCatalog) (created : List TestCase)
      (final : World MemoryCatalog),
      config.validate = .ok () ∧ catalog.Reachable ∧ catalog.closed = false ∧
      (Declared.reconcile client config.testSuites []).run ⟨catalog, []⟩ = (created, final) ∧
      created.map (·.name) = ["orders.rows", "rows"] ∧
      ∃ testCase ∈ created, ¬GivesBack final testCase := by
  have hopen : (World.mk dottedCatalog []).state.closed = false := rfl
  have hnames : ((Declared.reconcile client dottedConfig.testSuites []).run
      ⟨dottedCatalog, []⟩).1.map (·.name) = ["orders.rows", "rows"] := by
    decide +kernel
  have hkeys : ((Declared.reconcile client dottedConfig.testSuites []).run
      ⟨dottedCatalog, []⟩).1.map (·.key) =
        ["svc.db.sch.orders.rows", "svc.db.sch.orders.rows"] := by
    decide +kernel
  cases hrun : (Declared.reconcile client dottedConfig.testSuites []).run ⟨dottedCatalog, []⟩ with
  | mk created final =>
      rw [hrun] at hnames hkeys
      refine ⟨dottedConfig, dottedCatalog, created, final, rfl, ?_, hopen, hrun, hnames, ?_⟩
      · exact .insert (.insert (.empty _) (.testSuite _)) (.testDefinition _)
      · apply exists_not_givesBack hopen hrun
        rw [hkeys]
        decide

end MemoryCatalog

end DataQuality

import DataQuality.Proofs.Workflow.Idempotence
import DataQuality.Proofs.Workflow.Retention

/-!
# Listing the test cases of suites

A run lists the test cases that are stored for its suites by a filter on texts of identifiers. In a
catalog in memory this gives every suite exactly its members, whatever was done to the catalog
before: each is listed as its key gives it, and the keys come in increasing order.
-/

namespace DataQuality

namespace MemoryCatalog

/-- Test cases are the members of a suite in a catalog, in order of their keys. -/
structure MembersOf (world : World MemoryCatalog) (suite : TestSuite)
    (members : List TestCase) : Prop where
  increasing : members.Pairwise fun a b => a.key < b.key
  /-- Asked for by its key, the catalog gives the member. -/
  found : ∀ member ∈ members, GivesBack world member
  /-- What is stored is a test case under its key, and a member if it refers to the suite. -/
  complete : ∀ key value, world.state.find? .testCase key = some value →
    ∃ testCase : TestCase, Entity.ofJson value = .ok testCase ∧ testCase.key = key ∧
      (testCase ∈ members ↔ testCase.testSuite.id = suite.id)

variable {catalog : MemoryCatalog} {world : World MemoryCatalog} {suites : List TestSuite}

theorem WellFormed.testCases_increasing (h : catalog.WellFormed) :
    catalog.testCases.Pairwise fun a b => a.key < b.key := by
  have hsorted := h.sorted .testCase
  rw [Keyed.Sorted, h.entities_testCase] at hsorted
  have hkeys := List.pairwise_map.mp hsorted
  exact hkeys

theorem WellFormed.exists_testCase (h : catalog.WellFormed) {key : String} {value : Json}
    (hfind : catalog.find? .testCase key = some value) :
    ∃ stored : TestCase, stored.key = key ∧ value = stored.toJson := by
  cases h.document .testCase key value hfind with
  | testCase stored => exact ⟨stored, rfl, rfl⟩

/-- A catalog gives back what it holds, and holds what it gives back. -/
theorem WellFormed.givesBack_iff_holds (h : world.state.WellFormed)
    (hopen : world.state.closed = false) (testCase : TestCase) :
    GivesBack world testCase ↔ world.state.Holds testCase := by
  rw [MemoryCatalog.givesBack_iff hopen]
  have hread : ∀ stored : TestCase, Entity.read TestCase stored.toJson = .ok stored :=
    fun stored => Entity.read_of_ofJson (TestCase.reads stored)
  constructor
  · intro hgives
    cases hfind : world.state.find? .testCase testCase.key with
    | none =>
        rw [hfind] at hgives
        cases hgives
    | some value =>
        -- what stands under the key is the document of a test case, which is read as this one
        obtain ⟨stored, -, rfl⟩ := h.exists_testCase hfind
        rw [hfind, Option.mapM_some, hread stored] at hgives
        cases hgives
        exact hfind
  · intro hholds
    have hfind : world.state.find? .testCase testCase.key = some testCase.toJson := hholds
    rw [hfind, Option.mapM_some, hread testCase]
    rfl

theorem WellFormed.membersOf (h : world.state.WellFormed) (hopen : world.state.closed = false)
    (suite : TestSuite) :
    MembersOf world suite
      (world.state.testCases.filter fun testCase => testCase.testSuite.id == suite.id) where
  increasing := h.testCases_increasing.filter _
  found member hmember := by
    rw [h.givesBack_iff_holds hopen]
    exact h.mem_testCases.mp (List.mem_filter.mp hmember).1
  complete key value hfind := by
    obtain ⟨stored, rfl, rfl⟩ := h.exists_testCase hfind
    refine ⟨stored, TestCase.reads stored, rfl, ?_⟩
    have hstored : stored ∈ world.state.testCases := h.mem_testCases.mpr hfind
    rw [List.mem_filter, beq_iff_eq, and_iff_right hstored]

/-- Of suites with different identifiers no two list the same key. -/
theorem WellFormed.nodup_keys_listed (h : catalog.WellFormed)
    (hids : (suites.map (·.id)).Nodup) : ((catalog.listed suites).map (·.key)).Nodup := by
  apply (h.nodup_listed hids).map_on
  intro testCase hmem other hother hkey
  have hheld := h.mem_testCases.mpr (h.mem_listed.mp hmem).1
  have hotherHeld := h.mem_testCases.mpr (h.mem_listed.mp hother).1
  exact List.inj_on_of_nodup_map h.nodup_keys hheld hotherHeld hkey

end MemoryCatalog

namespace Workflow

open MemoryCatalog

variable {σ : Type} {part : Part σ MemoryCatalog} {workflow : Workflow σ}

/-- Listing asks nothing but the catalog, of which the rest of the world sees nothing. -/
theorem attempt_storedCases_lift (hclient : workflow.client = MemoryCatalog.client.lift part)
    {world : World σ} (hopen : (part.get world.state).closed = false)
    (hwell : (part.get world.state).WellFormed) (suites : List TestSuite) :
    Effect.attempt (workflow.storedCases suites) world =
      (.ok ((part.get world.state).listed suites), world) := by
  have hreads : ReadsThrough part workflow (alone workflow.config) := ⟨rfl, hclient⟩
  have hlift : workflow.storedCases suites =
      part.liftExcept ((alone workflow.config).storedCases suites) :=
    hreads.consults.storedCases suites
  have hlisted : Effect.attempt ((alone workflow.config).storedCases suites) (part.world world) =
      (.ok ((part.get world.state).listed suites), part.world world) :=
    attempt_storedCases (part.world world) hopen hwell suites
  rw [hlift, part.attempt_liftExcept, hlisted, part.within_world]

/-- Listing by suite is exact, in whatever state an open catalog in memory is: suite by suite in
the order of the suites, it gives the members of each. If the suites have different identifiers,
every stored test case of one of them is listed once and no other test case is. -/
theorem storedCases_exact (hclient : workflow.client = MemoryCatalog.client.lift part)
    {world : World σ} (hreachable : (part.get world.state).Reachable)
    (hopen : (part.get world.state).closed = false) (suites : List TestSuite) :
    ∃ members : TestSuite → List TestCase,
      (∀ suite, MembersOf (part.world world) suite (members suite)) ∧
      Effect.attempt (workflow.storedCases suites) world =
        (.ok (suites.flatMap members), world) ∧
      ((suites.map (·.id)).Nodup →
        ((suites.flatMap members).map (·.key)).Nodup ∧
        ∀ testCase, testCase ∈ suites.flatMap members ↔
          GivesBack (part.world world) testCase ∧
            ∃ suite ∈ suites, testCase.testSuite.id = suite.id) := by
  have hwell := hreachable.wellFormed
  have hwell' : (part.world world).state.WellFormed := hwell
  refine ⟨_, hwell'.membersOf hopen, attempt_storedCases_lift hclient hopen hwell suites, ?_⟩
  intro hids
  refine ⟨hwell.nodup_keys_listed hids, ?_⟩
  intro testCase
  rw [hwell'.givesBack_iff_holds hopen]
  exact hwell.mem_listed

def dailySuite : TestSuite := ⟨.ofNat 1, "daily", none, none⟩

def weeklySuite : TestSuite := ⟨.ofNat 2, "weekly", none, none⟩

/-- A definition that test cases refer to. -/
def rowCountReference : EntityReference :=
  Entity.reference (⟨.ofNat 3, "tableRowCountToEqual", none, none, none⟩ : TestDefinition)

/-- Test cases of two suites in no particular order: three are kept as they are, and one is
created. -/
def mixedCatalog : MemoryCatalog :=
  let testCase (id : Nat) (name : String) (suite : TestSuite) : TestCase :=
    ⟨.ofNat id, name, none, none, "<#E::table::orders>", Entity.reference suite,
      rowCountReference, []⟩
  let empty : MemoryCatalog := {}
  let kept := empty.insert (testCase 4 "z" weeklySuite) |>.insert (testCase 5 "p" dailySuite)
    |>.insert (testCase 6 "a" weeklySuite)
  (kept.createOrUpdate (.testCase
    { name := "rows", description := none, entityLink := "<#E::table::orders>",
      testDefinition := rowCountReference, testSuite := Entity.reference dailySuite,
      parameterValues := [] })).2

/-- The test cases of each suite come in order of their keys, the created one among them. -/
theorem storedCases_exact_mixed :
    ∃ members : TestSuite → List TestCase,
      (∀ suite, MembersOf ⟨mixedCatalog, []⟩ suite (members suite)) ∧
      (members weeklySuite ++ members dailySuite).map (·.key) =
        ["a", "z", "orders.rows", "p"] ∧
      ∀ testCase, testCase ∈ members weeklySuite ++ members dailySuite ↔
        GivesBack ⟨mixedCatalog, []⟩ testCase ∧
          ∃ suite ∈ [weeklySuite, dailySuite], testCase.testSuite.id = suite.id := by
  have hreachable : mixedCatalog.Reachable :=
    .createOrUpdate _ (.insert (.insert (.insert (.empty _) (.testCase _)) (.testCase _))
      (.testCase _))
  obtain ⟨members, hmembers, hlisted, hexact⟩ := @storedCases_exact _ Part.whole
    (alone (.ofSource "sample-data" "daily")) rfl ⟨mixedCatalog, []⟩ hreachable rfl
    [weeklySuite, dailySuite]
  have hflat : [weeklySuite, dailySuite].flatMap members =
      members weeklySuite ++ members dailySuite := by
    simp
  rw [hflat] at hlisted hexact
  refine ⟨members, hmembers, ?_, (hexact (by decide)).2⟩
  have hkeys : ((Effect.attempt ((alone (.ofSource "sample-data" "daily")).storedCases
      [weeklySuite, dailySuite]) ⟨mixedCatalog, []⟩).1.toOption.map fun listed =>
        listed.map (·.key)) = some ["a", "z", "orders.rows", "p"] := by
    decide +kernel
  rw [hlisted] at hkeys
  exact Option.some.inj hkeys

end Workflow

end DataQuality

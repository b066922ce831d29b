import DataQuality.Proofs.Catalog.MemoryClient

/-!
# Resolving suites

A declared suite is found in a catalog in memory, or created there with the next identifier.
Resolving goes on to the end, or to the first suite that is refused. What was there stays there; the
suites that are resolved stand under the declared names; and fresh identifiers keep the identifiers
of suites apart.
-/

namespace DataQuality

namespace MemoryCatalog

/-- The suite that is created for a declaration. -/
def newSuite (catalog : MemoryCatalog) (declared : SuiteDeclaration) : TestSuite :=
  ⟨catalog.supply catalog.drawn, declared.name, some declared.name, declared.description⟩

/-- A catalog with the suite that is created for a declaration. -/
def withSuite (catalog : MemoryCatalog) (declared : SuiteDeclaration) : MemoryCatalog :=
  { catalog.put .testSuite declared.name (catalog.newSuite declared).toJson with
    drawn := catalog.drawn + 1
    created := catalog.created ++ [(.testSuite, declared.name)] }

/-- Suites are resolved one after the other, from one catalog to another. -/
inductive Resolves :
    MemoryCatalog → List SuiteDeclaration → List TestSuite → MemoryCatalog → Prop where
  | done (catalog : MemoryCatalog) : Resolves catalog [] [] catalog
  | found {catalog final : MemoryCatalog} {declared : SuiteDeclaration} {suite : TestSuite}
      {rest : List SuiteDeclaration} {suites : List TestSuite} :
      catalog.find? .testSuite declared.name = some suite.toJson →
      Resolves catalog rest suites final →
      Resolves catalog (declared :: rest) (suite :: suites) final
  | created {catalog final : MemoryCatalog} {declared : SuiteDeclaration}
      {rest : List SuiteDeclaration} {suites : List TestSuite} :
      catalog.find? .testSuite declared.name = none →
      Resolves (catalog.withSuite declared) rest suites final →
      Resolves catalog (declared :: rest) (catalog.newSuite declared :: suites) final

variable {catalog final : MemoryCatalog}

theorem find?_withSuite (catalog : MemoryCatalog) (declared : SuiteDeclaration)
    (kind : EntityKind) (key : String) :
    (catalog.withSuite declared).find? kind key =
      if kind = .testSuite ∧ key = declared.name then some (catalog.newSuite declared).toJson
      else catalog.find? kind key :=
  catalog.find?_put .testSuite kind declared.name key _

theorem WellFormed.withSuite (h : catalog.WellFormed) (declared : SuiteDeclaration) :
    (catalog.withSuite declared).WellFormed :=
  (h.put (.testSuite (catalog.newSuite declared))).of_entities rfl

/-- Under the key of a suite stands the document of a suite with that key. -/
theorem WellFormed.exists_suite (h : catalog.WellFormed) {key : String} {value : Json}
    (hfind : catalog.find? .testSuite key = some value) :
    ∃ suite : TestSuite, Entity.key suite = key ∧ value = suite.toJson := by
  cases h.document .testSuite key value hfind with
  | testSuite suite => exact ⟨suite, rfl, rfl⟩

theorem WellFormed.suite_key (h : catalog.WellFormed) {key : String} {suite : TestSuite}
    (hfind : catalog.find? .testSuite key = some suite.toJson) : Entity.key suite = key := by
  obtain ⟨other, hkey, hjson⟩ := h.exists_suite hfind
  rw [TestSuite.reads.injective hjson, hkey]

variable {declared : List SuiteDeclaration} {suites : List TestSuite}

/-- The suites that stand under declared names. -/
def Found (catalog : MemoryCatalog) (declared : List SuiteDeclaration)
    (suites : List TestSuite) : Prop :=
  List.Forall₂ (fun d (suite : TestSuite) =>
    catalog.find? .testSuite d.name = some suite.toJson) declared suites

theorem Found.exists_of_mem (h : catalog.Found declared suites) {d : SuiteDeclaration}
    (hd : d ∈ declared) :
    ∃ suite ∈ suites, catalog.find? .testSuite d.name = some suite.toJson := by
  induction h with
  | nil => cases hd
  | cons hfirst _ ih =>
      rcases List.mem_cons.mp hd with rfl | hd
      · exact ⟨_, List.mem_cons_self, hfirst⟩
      · obtain ⟨suite, hsuite, hfind⟩ := ih hd
        exact ⟨suite, List.mem_cons_of_mem _ hsuite, hfind⟩

theorem Found.keys_eq (h : catalog.Found declared suites) (hwell : catalog.WellFormed) :
    suites.map Entity.key = declared.map (·.name) := by
  induction h with
  | nil => rfl
  | cons hfirst _ ih => rw [List.map_cons, List.map_cons, hwell.suite_key hfirst, ih]

theorem Found.holds (h : catalog.Found declared suites) (hwell : catalog.WellFormed) :
    ∀ suite ∈ suites, catalog.Holds suite := by
  induction h with
  | nil => exact fun suite hsuite => absurd hsuite List.not_mem_nil
  | cons hfirst _ ih =>
      intro suite hsuite
      rcases List.mem_cons.mp hsuite with rfl | hsuite
      · have hkey := hwell.suite_key hfirst
        rw [← hkey] at hfirst
        exact hfirst
      · exact ih suite hsuite

/-! ## What resolving leaves -/

theorem Resolves.wellFormed (h : Resolves catalog declared suites final)
    (hwell : catalog.WellFormed) : final.WellFormed := by
  induction h with
  | done catalog => exact hwell
  | found _ _ ih => exact ih hwell
  | created _ _ ih => exact ih (hwell.withSuite _)

theorem Resolves.closed_eq (h : Resolves catalog declared suites final) :
    final.closed = catalog.closed := by
  induction h with
  | done catalog => rfl
  | found _ _ ih => exact ih
  | created _ _ ih => exact ih

theorem Resolves.drawn_le (h : Resolves catalog declared suites final) :
    catalog.drawn ≤ final.drawn := by
  induction h with
  | done catalog => exact Nat.le_refl _
  | found _ _ ih => exact ih
  | created _ _ ih => exact Nat.le_of_succ_le ih

/-- What stands under a key stays there. -/
theorem Resolves.find?_of_some (h : Resolves catalog declared suites final) {key : String}
    {value : Json} (hfind : catalog.find? .testSuite key = some value) :
    final.find? .testSuite key = some value := by
  induction h with
  | done catalog => exact hfind
  | found _ _ ih => exact ih hfind
  | @created catalog _ declared _ _ hnone _ ih =>
      refine ih ?_
      rw [find?_withSuite, if_neg ?_]
      · exact hfind
      · rintro ⟨-, rfl⟩
        rw [hnone] at hfind
        cases hfind

/-- No key is new but those of declared suites. -/
theorem Resolves.find?_eq_none (h : Resolves catalog declared suites final) {key : String}
    (hnone : catalog.find? .testSuite key = none) (hkey : ∀ d ∈ declared, d.name ≠ key) :
    final.find? .testSuite key = none := by
  induction h with
  | done catalog => exact hnone
  | found _ _ ih => exact ih hnone fun d hd => hkey d (List.mem_cons_of_mem _ hd)
  | @created catalog _ declared _ _ _ _ ih =>
      refine ih ?_ fun d hd => hkey d (List.mem_cons_of_mem _ hd)
      rw [find?_withSuite, if_neg ?_]
      · exact hnone
      · exact fun h => hkey declared List.mem_cons_self h.2.symm

/-- Every resolved suite stands under its declared name. -/
theorem Resolves.all_found (h : Resolves catalog declared suites final) :
    final.Found declared suites := by
  induction h with
  | done catalog => exact .nil
  | found hfind hrest ih => exact .cons (hrest.find?_of_some hfind) ih
  | @created catalog _ declared _ _ _ hrest ih =>
      refine .cons (hrest.find?_of_some ?_) ih
      rw [find?_withSuite, if_pos ⟨rfl, rfl⟩]

/-! ## How resolving ends -/

/-- A catalog refuses to create the suite of a name, and has none of that name. -/
def Rejects (catalog : MemoryCatalog) (name : String) : Prop :=
  name ∈ catalog.refusing ∧ catalog.find? .testSuite name = none

/-- The creation of another suite makes no difference to what is rejected. -/
theorem rejects_withSuite {declared : SuiteDeclaration} (h : declared.name ∉ catalog.refusing)
    (name : String) : (catalog.withSuite declared).Rejects name ↔ catalog.Rejects name := by
  have hrefusing : (catalog.withSuite declared).refusing = catalog.refusing := rfl
  rw [Rejects, Rejects, hrefusing, and_congr_right_iff]
  intro hname
  rw [find?_withSuite, if_neg]
  rintro ⟨-, rfl⟩
  exact h hname

/-- How resolving declarations ends: with all of their suites, or at the first whose suite is
rejected, when those of the declarations before it are resolved. -/
inductive Ends (catalog : MemoryCatalog) :
    List SuiteDeclaration → Except CatalogError (List TestSuite) → MemoryCatalog → Prop where
  | resolved {declared : List SuiteDeclaration} {suites : List TestSuite}
      {final : MemoryCatalog} :
      Resolves catalog declared suites final → (∀ d ∈ declared, ¬catalog.Rejects d.name) →
      Ends catalog declared (.ok suites) final
  | rejected {before after : List SuiteDeclaration} {d : SuiteDeclaration}
      {suites : List TestSuite} {final : MemoryCatalog} :
      Resolves catalog before suites final → (∀ other ∈ before, ¬catalog.Rejects other.name) →
      catalog.Rejects d.name →
      Ends catalog (before ++ d :: after)
        (.error (.refused 400 s!"rejected create of {d.name}")) final

section Ends

variable {declared : SuiteDeclaration} {rest : List SuiteDeclaration}
  {answer : Except CatalogError (List TestSuite)}

theorem Ends.found {suite : TestSuite}
    (hfind : catalog.find? .testSuite declared.name = some suite.toJson)
    (h : Ends catalog rest answer final) :
    Ends catalog (declared :: rest) (answer.map (suite :: ·)) final := by
  have hstays : ¬catalog.Rejects declared.name := by
    rintro ⟨-, hnone⟩
    rw [hfind] at hnone
    cases hnone
  cases h with
  | resolved hresolves hall =>
      exact .resolved (.found hfind hresolves) (List.forall_mem_cons.mpr ⟨hstays, hall⟩)
  | rejected hresolves hbefore hd =>
      exact @Ends.rejected catalog (declared :: _) _ _ _ _ (.found hfind hresolves)
        (List.forall_mem_cons.mpr ⟨hstays, hbefore⟩) hd

theorem Ends.created (hfind : catalog.find? .testSuite declared.name = none)
    (hallowed : declared.name ∉ catalog.refusing)
    (h : Ends (catalog.withSuite declared) rest answer final) :
    Ends catalog (declared :: rest) (answer.map (catalog.newSuite declared :: ·)) final := by
  have hstays : ¬catalog.Rejects declared.name := fun h => hallowed h.1
  cases h with
  | resolved hresolves hall =>
      simp only [rejects_withSuite hallowed] at hall
      exact .resolved (.created hfind hresolves) (List.forall_mem_cons.mpr ⟨hstays, hall⟩)
  | rejected hresolves hbefore hd =>
      simp only [rejects_withSuite hallowed] at hbefore hd
      exact @Ends.rejected catalog (declared :: _) _ _ _ _ (.created hfind hresolves)
        (List.forall_mem_cons.mpr ⟨hstays, hbefore⟩) hd

end Ends

/-! ## Identifiers -/

/-- Different suites have different identifiers. -/
def DistinctIds (catalog : MemoryCatalog) : Prop :=
  ∀ suite suite' : TestSuite, catalog.Holds suite → catalog.Holds suite' →
    suite.id = suite'.id → suite = suite'

/-- The identifiers that are drawn up to a count are new: no suite has one of them, and none comes
twice. -/
def DrawsFresh (catalog : MemoryCatalog) (count : Nat) : Prop :=
  ∀ i, catalog.drawn ≤ i → i < count →
    (∀ suite : TestSuite, catalog.Holds suite → suite.id ≠ catalog.supply i) ∧
    ∀ j, catalog.drawn ≤ j → j < i → catalog.supply j ≠ catalog.supply i

/-- Suites with different names have different identifiers. -/
theorem Found.nodup_ids (h : catalog.Found declared suites) (hwell : catalog.WellFormed)
    (hids : catalog.DistinctIds) (hnames : (declared.map (·.name)).Nodup) :
    (suites.map (·.id)).Nodup := by
  rw [← h.keys_eq hwell] at hnames
  refine List.pairwise_map.mpr (List.Pairwise.imp_of_mem ?_ (List.pairwise_map.mp hnames))
  intro suite suite' hsuite hsuite' hne hid
  exact hne (congrArg Entity.key
    (hids suite suite' (h.holds hwell suite hsuite) (h.holds hwell suite' hsuite') hid))

theorem holds_withSuite {declared : SuiteDeclaration} {suite : TestSuite}
    (h : (catalog.withSuite declared).Holds suite) :
    suite = catalog.newSuite declared ∨ catalog.Holds suite := by
  have hfind : (catalog.withSuite declared).find? .testSuite (Entity.key suite) =
      some suite.toJson := h
  rw [find?_withSuite] at hfind
  split at hfind
  next => exact .inl (TestSuite.reads.injective (Option.some.inj hfind)).symm
  next => exact .inr hfind

theorem DistinctIds.withSuite (h : catalog.DistinctIds) {count : Nat}
    (hfresh : catalog.DrawsFresh count) (hcount : catalog.drawn < count)
    (declared : SuiteDeclaration) : (catalog.withSuite declared).DistinctIds := by
  obtain ⟨hnew, -⟩ := hfresh catalog.drawn (Nat.le_refl _) hcount
  intro suite suite' hsuite hsuite' hid
  rcases holds_withSuite hsuite with rfl | hold
  · rcases holds_withSuite hsuite' with rfl | hold'
    · rfl
    · exact absurd hid.symm (hnew suite' hold')
  · rcases holds_withSuite hsuite' with rfl | hold'
    · exact absurd hid (hnew suite hold)
    · exact h suite suite' hold hold' hid

theorem DrawsFresh.withSuite {count : Nat} (h : catalog.DrawsFresh count)
    (declared : SuiteDeclaration) : (catalog.withSuite declared).DrawsFresh count := by
  intro i hi hcount
  have hdrawn : catalog.drawn < i := hi
  obtain ⟨hnew, htwice⟩ := h i (Nat.le_of_lt hdrawn) hcount
  refine ⟨fun suite hsuite => ?_, fun j hj => htwice j (Nat.le_of_succ_le hj)⟩
  rcases holds_withSuite hsuite with rfl | hold
  · exact htwice catalog.drawn (Nat.le_refl _) hdrawn
  · exact hnew suite hold

/-- Fresh identifiers keep the identifiers of suites apart. -/
theorem Resolves.distinctIds (h : Resolves catalog declared suites final) {count : Nat}
    (hcount : final.drawn ≤ count) (hids : catalog.DistinctIds)
    (hfresh : catalog.DrawsFresh count) : final.DistinctIds := by
  induction h with
  | done catalog => exact hids
  | found _ _ ih => exact ih hcount hids hfresh
  | created _ hrest ih =>
      have hdrawn : _ < count := Nat.lt_of_lt_of_le hrest.drawn_le hcount
      exact ih hcount (hids.withSuite hfresh hdrawn _) (hfresh.withSuite _)

end MemoryCatalog

/-! ## Resolving in a run -/

namespace Workflow

open MemoryCatalog

variable {config : WorkflowConfig} {world : World MemoryCatalog}

theorem attempt_declaredSuite_of_found (hopen : world.state.closed = false)
    {declared : SuiteDeclaration} {suite : TestSuite}
    (h : world.state.find? .testSuite declared.name = some suite.toJson) :
    Effect.attempt ((alone config).declaredSuite declared) world = (.ok suite, world) := by
  have hfind : Effect.attempt ((alone config).client.find TestSuite declared.name []) world =
      (.ok (some suite), world) :=
    attempt_find_some hopen TestSuite.reads h []
  rw [declaredSuite, Effect.attempt_bind_ok hfind]
  rfl

/-- A suite that is not there is created, unless that is refused. -/
theorem attempt_declaredSuite_of_absent (hopen : world.state.closed = false)
    {declared : SuiteDeclaration} (h : world.state.find? .testSuite declared.name = none) :
    ∃ journal, Effect.attempt ((alone config).declaredSuite declared) world =
      if declared.name ∈ world.state.refusing then
        (.error (.refused 400 s!"rejected create of {declared.name}"), ⟨world.state, journal⟩)
      else
        (.ok (world.state.newSuite declared), ⟨world.state.withSuite declared, journal⟩) := by
  have hfind : Effect.attempt ((alone config).client.find TestSuite declared.name []) world =
      (.ok none, world) :=
    attempt_find_none (α := TestSuite) hopen h []
  let noted : World MemoryCatalog :=
    { world with
      journal := world.journal ++ [⟨.info, s!"Creating test suite {declared.name}"⟩] }
  let request : CreateRequest := .testSuite ⟨declared.name, declared.description⟩
  refine ⟨noted.journal, ?_⟩
  rw [declaredSuite, Effect.attempt_bind_ok hfind]
  change Effect.attempt (MemoryCatalog.client.create TestSuite request) noted = _
  have hopenNoted : noted.state.closed = false := hopen
  have hkind : request.kind = Entity.kind TestSuite := rfl
  rw [MemoryCatalog.client.create_of_kind hkind, Effect.attempt_bind,
    attempt_createOrUpdate hopenNoted]
  have hname : request.name = declared.name := rfl
  rw [hname]
  by_cases hrefused : declared.name ∈ world.state.refusing
  · rw [if_pos hrefused]
    simp only [noted, hrefused, if_true]
  · have hstore : noted.state.store request declared.name = _ := store_new request h
    simp only [noted, if_neg hrefused, request, requestedName]
    simp only [noted, request] at hstore
    rw [hstore]
    -- what is stored is read back, so the suite that is answered is the stored one
    exact attempt_decoded_toJson TestSuite.reads (world.state.newSuite declared)

/-- Resolving declarations, one after the other, ends in one of the two ways. -/
theorem exists_ends_suitesOf (hopen : world.state.closed = false)
    (hwell : world.state.WellFormed) (declared : List SuiteDeclaration) :
    ∃ answer next, Effect.attempt ((alone config).suitesOf declared) world = (answer, next) ∧
      Ends world.state declared answer next.state := by
  induction declared generalizing world with
  | nil => exact ⟨_, _, rfl, .resolved (.done _) fun _ hd => absurd hd List.not_mem_nil⟩
  | cons first rest ih =>
      have hcons : ∀ {suite : TestSuite} {middle last : World MemoryCatalog} {answer},
          Effect.attempt ((alone config).declaredSuite first) world = (.ok suite, middle) →
          Effect.attempt ((alone config).suitesOf rest) middle = (answer, last) →
          Effect.attempt ((alone config).suitesOf (first :: rest)) world =
            (answer.map (suite :: ·), last) := by
        intro suite middle last answer hfirst hrest
        rw [suitesOf, Effect.attempt_bind_ok hfirst, Effect.attempt_bind, hrest]
        cases answer with
        | ok suites => rfl
        | error e => rfl
      cases hfind : world.state.find? .testSuite first.name with
      | some value =>
          obtain ⟨stored, -, rfl⟩ := hwell.exists_suite hfind
          have hfirst := @attempt_declaredSuite_of_found config world hopen first stored hfind
          obtain ⟨answer, last, hrest, hends⟩ := ih hopen hwell
          exact ⟨_, last, hcons hfirst hrest, .found hfind hends⟩
      | none =>
          obtain ⟨journal, hfirst⟩ :=
            @attempt_declaredSuite_of_absent config world hopen first hfind
          by_cases hrefused : first.name ∈ world.state.refusing
          · rw [if_pos hrefused] at hfirst
            exact ⟨_, _, Effect.attempt_bind_error hfirst _,
              @Ends.rejected _ [] rest first [] _ (.done _)
                (fun _ hd => absurd hd List.not_mem_nil) ⟨hrefused, hfind⟩⟩
          · rw [if_neg hrefused] at hfirst
            let middle : World MemoryCatalog := ⟨world.state.withSuite first, journal⟩
            have hopenMiddle : middle.state.closed = false := hopen
            obtain ⟨answer, last, hrest, hends⟩ := ih hopenMiddle (hwell.withSuite first)
            exact ⟨_, last, hcons hfirst hrest, .created hfind hrefused hends⟩

theorem resolves_suitesOf (hopen : world.state.closed = false) (hwell : world.state.WellFormed)
    {declared : List SuiteDeclaration} {suites : List TestSuite} {next : World MemoryCatalog}
    (h : Effect.attempt ((alone config).suitesOf declared) world = (.ok suites, next)) :
    Resolves world.state declared suites next.state := by
  obtain ⟨answer, last, hrun, hends⟩ := @exists_ends_suitesOf config world hopen hwell declared
  cases hrun.symm.trans h
  cases hends with
  | resolved hresolves _ => exact hresolves

/-- Suites that are all there are found, and nothing is created. -/
theorem attempt_suitesOf_of_found (hopen : world.state.closed = false)
    {declared : List SuiteDeclaration} {suites : List TestSuite}
    (h : world.state.Found declared suites) :
    Effect.attempt ((alone config).suitesOf declared) world = (.ok suites, world) := by
  induction h with
  | nil => rfl
  | cons hfirst _ ih =>
      rw [suitesOf, Effect.attempt_bind_ok (attempt_declaredSuite_of_found hopen hfirst),
        Effect.attempt_bind_ok ih]
      rfl

end Workflow

end DataQuality

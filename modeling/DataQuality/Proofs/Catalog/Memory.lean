import DataQuality.Catalog.Memory
import DataQuality.Proofs.Catalog.RoundTrip
import DataQuality.Proofs.Frame

/-!
# The catalog in memory

What can be in a catalog in memory, and what its client does to it. A catalog that is only used
through its operations keeps documents of entities, each under the key of its entity, in order of
the keys.
-/

namespace DataQuality

namespace MemoryCatalog

/-- The document of an entity of a kind, and the key of that entity. -/
inductive Document : EntityKind → String → Json → Prop where
  | testSuite (suite : TestSuite) : Document .testSuite (Entity.key suite) suite.toJson
  | testCase (testCase : TestCase) : Document .testCase testCase.key testCase.toJson
  | testDefinition (definition : TestDefinition) :
      Document .testDefinition (Entity.key definition) definition.toJson
  | table (table : Table) : Document .table table.key table.toJson
  | databaseService (service : DatabaseService) :
      Document .databaseService (Entity.key service) service.toJson

/-- What the operations of a catalog can make of an empty one. -/
inductive Reachable : MemoryCatalog → Prop where
  | empty (supply : Nat → Uuid) : Reachable { supply }
  | insert {catalog : MemoryCatalog} {kind : EntityKind} {key : String} {value : Json} :
      Reachable catalog → Document kind key value → Reachable (catalog.put kind key value)
  | refuse {catalog : MemoryCatalog} (name : String) :
      Reachable catalog → Reachable (catalog.refuse name)
  | createOrUpdate {catalog : MemoryCatalog} (request : CreateRequest) :
      Reachable catalog → Reachable (catalog.createOrUpdate request).2
  | addResult {catalog : MemoryCatalog} (name : String) (result : TestCaseResult) :
      Reachable catalog → Reachable (catalog.addResult name result).2
  | close {catalog : MemoryCatalog} :
      Reachable catalog → Reachable { catalog with closed := true }

/-- Documents of entities under the keys of their entities, in order. -/
structure WellFormed (catalog : MemoryCatalog) : Prop where
  sorted : ∀ kind, Keyed.Sorted (catalog.entities kind)
  document : ∀ kind key value, catalog.find? kind key = some value → Document kind key value

variable {catalog : MemoryCatalog}

theorem WellFormed.of_entities (h : catalog.WellFormed) {catalog' : MemoryCatalog}
    (hentities : catalog'.entities = catalog.entities) : catalog'.WellFormed where
  sorted kind := hentities ▸ h.sorted kind
  document kind key value hfind := by
    refine h.document kind key value ?_
    rw [find?, ← hentities]
    exact hfind

theorem WellFormed.put (h : catalog.WellFormed) {kind : EntityKind} {key : String}
    {value : Json} (hdocument : Document kind key value) :
    (catalog.put kind key value).WellFormed where
  sorted kind' := by
    simp only [MemoryCatalog.put]
    split
    next => exact Keyed.sorted_insert (h.sorted kind') key value
    next => exact h.sorted kind'
  document kind' key' value' hfind := by
    rw [find?_put] at hfind
    split at hfind
    next heq =>
      obtain ⟨rfl, rfl⟩ := heq
      cases hfind
      exact hdocument
    next => exact h.document kind' key' value' hfind

/-! ## Creating -/

/-- What is asked for gets a document that belongs under the requested name. -/
theorem document_requestedEntity (request : CreateRequest) (id : Uuid) (fqn : String) :
    Document request.kind fqn (requestedEntity request id fqn) := by
  cases request with
  | testSuite suite => exact .testSuite ⟨id, suite.name, some fqn, suite.description⟩
  | testCase testCase =>
      exact .testCase
        ⟨id, testCase.name, some fqn, testCase.description, testCase.entityLink,
          testCase.testSuite, testCase.testDefinition, testCase.parameterValues⟩

/-- A store puts the requested document under its name, draws at most one identifier and does
nothing else but keep account of what was created. -/
theorem exists_store (catalog : MemoryCatalog) (request : CreateRequest) (fqn : String) :
    ∃ id drawn created, catalog.drawn ≤ drawn ∧
      catalog.store request fqn =
        (requestedEntity request id fqn,
          { catalog.put request.kind fqn (requestedEntity request id fqn) with
            drawn, created }) := by
  cases hid : catalog.existingId? request.kind fqn with
  | some id =>
      cases hfind : catalog.find? request.kind fqn with
      | some value =>
          refine ⟨id, catalog.drawn, catalog.created, Nat.le_refl _, ?_⟩
          simp only [store, hid, hfind, Option.isSome_some, if_true]
          rfl
      | none => simp [existingId?, hfind] at hid
  | none =>
      cases hfind : catalog.find? request.kind fqn with
      | some value =>
          refine ⟨catalog.supply catalog.drawn, catalog.drawn + 1, catalog.created,
            Nat.le_succ _, ?_⟩
          simp only [store, hid, hfind, Option.isSome_some, if_true]
          rfl
      | none =>
          refine ⟨catalog.supply catalog.drawn, catalog.drawn + 1,
            catalog.created ++ [(request.kind, fqn)], Nat.le_succ _, ?_⟩
          simp only [store, hid, hfind, Option.isSome_none, Bool.false_eq_true, if_false]
          rfl

/-- What is stored under a new name gets the next identifier and is remembered. -/
theorem store_new (request : CreateRequest) {fqn : String}
    (h : catalog.find? request.kind fqn = none) :
    catalog.store request fqn =
      (requestedEntity request (catalog.supply catalog.drawn) fqn,
        { catalog.put request.kind fqn
            (requestedEntity request (catalog.supply catalog.drawn) fqn) with
          drawn := catalog.drawn + 1
          created := catalog.created ++ [(request.kind, fqn)] }) := by
  have hid : catalog.existingId? request.kind fqn = none := by simp [existingId?, h]
  simp only [store, hid, h, Option.isSome_none, Bool.false_eq_true, if_false]
  rfl

/-- A request changes nothing, or the catalog is open and stores what is asked for. -/
theorem createOrUpdate_cases (catalog : MemoryCatalog) (request : CreateRequest) :
    (∃ e, catalog.createOrUpdate request = (.error e, catalog)) ∨
      ∃ fqn, catalog.closed = false ∧ requestedName request = .ok fqn ∧
        catalog.createOrUpdate request =
          (.ok (catalog.store request fqn).1, (catalog.store request fqn).2) := by
  unfold createOrUpdate
  by_cases hclosed : catalog.closed = true
  · exact .inl ⟨.closed, if_pos hclosed⟩
  · rw [if_neg hclosed]
    by_cases hrefused : request.name ∈ catalog.refusing
    · exact .inl ⟨_, if_pos hrefused⟩
    · rw [if_neg hrefused]
      cases hname : requestedName request with
      | error e => exact .inl ⟨e, rfl⟩
      | ok fqn => exact .inr ⟨fqn, Bool.eq_false_iff.mpr hclosed, rfl, rfl⟩

/-- A result is refused, or it is all that is added. -/
theorem addResult_cases (catalog : MemoryCatalog) (name : String) (result : TestCaseResult) :
    (∃ e, catalog.addResult name result = (.error e, catalog)) ∨
      catalog.addResult name result =
        (.ok (), { catalog with results := catalog.results ++ [(name, result)] }) := by
  unfold addResult
  by_cases hclosed : catalog.closed = true
  · exact .inl ⟨.closed, if_pos hclosed⟩
  · rw [if_neg hclosed]
    by_cases hunknown : (catalog.find? .testCase name).isNone = true
    · exact .inl ⟨_, if_pos hunknown⟩
    · exact .inr (if_neg hunknown)

/-- An open catalog takes results of what it knows. -/
theorem addResult_of_known (hopen : catalog.closed = false) {name : String}
    (hknown : (catalog.find? .testCase name).isSome) (result : TestCaseResult) :
    catalog.addResult name result =
      (.ok (), { catalog with results := catalog.results ++ [(name, result)] }) := by
  have hclosed : ¬catalog.closed = true := Bool.eq_false_iff.mp hopen
  have hunknown : ¬(catalog.find? .testCase name).isNone = true := by
    rw [Option.isNone_iff_eq_none]
    exact Option.isSome_iff_ne_none.mp hknown
  rw [addResult, if_neg hclosed, if_neg hunknown]

theorem WellFormed.createOrUpdate (h : catalog.WellFormed) (request : CreateRequest) :
    (catalog.createOrUpdate request).2.WellFormed := by
  obtain ⟨e, hrun⟩ | ⟨fqn, -, -, hrun⟩ := catalog.createOrUpdate_cases request
  · rw [hrun]
    exact h
  · obtain ⟨id, drawn, created, -, hstore⟩ := catalog.exists_store request fqn
    rw [hrun, hstore]
    exact (h.put (document_requestedEntity request id fqn)).of_entities rfl

theorem WellFormed.addResult (h : catalog.WellFormed) (name : String)
    (result : TestCaseResult) : (catalog.addResult name result).2.WellFormed := by
  obtain ⟨e, hrun⟩ | hrun := catalog.addResult_cases name result
  · rw [hrun]
    exact h
  · rw [hrun]
    exact h.of_entities rfl

/-- Every catalog that is used through its operations is well-formed. -/
theorem Reachable.wellFormed (h : catalog.Reachable) : catalog.WellFormed := by
  induction h with
  | empty supply => exact ⟨fun _ => List.Pairwise.nil, fun _ _ _ hfind => by cases hfind⟩
  | insert _ hdocument ih => exact ih.put hdocument
  | refuse name _ ih => exact ih.of_entities rfl
  | createOrUpdate request _ ih => exact ih.createOrUpdate request
  | addResult name result _ ih => exact ih.addResult name result
  | close _ ih => exact ih.of_entities rfl

end MemoryCatalog

end DataQuality

import DataQuality.Proofs.Check.Requirements
import Mathlib.Data.List.Nodup

/-!
# Verdicts and obstacles

The validators of the built-in registry give a verdict or name an obstacle, and never anything
else. There is a verdict exactly if the definition of the test case is one of theirs and everything
that the definition needs is there; the obstacle is what is missing first.
-/

namespace DataQuality

open Check

/-! ## What definitions need -/

/-- What a check needs: parameters, of which one has to be given if there are any, and the numbers
that it looks at. -/
structure Requirement where
  parameters : List String
  subject : Subject

/-- What each of the built-in definitions needs. -/
def Requirement.builtin : List (String × Requirement) :=
  [("tableRowCountToBeBetween", ⟨["minValue", "maxValue"], .rows⟩),
    ("tableRowCountToEqual", ⟨["value"], .rows⟩),
    ("tableColumnCountToEqual", ⟨["columnCount"], .columns⟩),
    ("tableColumnCountToBeBetween", ⟨["minColValue", "maxColValue"], .columns⟩),
    ("columnValuesToBeNotNull", ⟨[], .column [.nullCount]⟩),
    ("columnValuesToBeUnique", ⟨[], .column [.valuesCount, .uniqueCount]⟩),
    ("columnValuesToBeBetween", ⟨["minValue", "maxValue"], .column [.min, .max]⟩)]

namespace Requirement

variable {context : TableContext} {testCase : TestCase} {requirement : Requirement}

/-- All that is needed is there. -/
structure Met (context : TableContext) (testCase : TestCase) (requirement : Requirement) :
    Prop where
  given : testCase.Gives requirement.parameters
  known : requirement.subject.Known context testCase

/-- What is missing first: parameters before the numbers to look at. -/
inductive Obstacle (context : TableContext) (testCase : TestCase) (requirement : Requirement) :
    ExecutionError → Prop where
  | withheld {e : ExecutionError} : testCase.Withholds requirement.parameters e →
      Obstacle context testCase requirement e
  | lacking {e : ExecutionError} : testCase.Gives requirement.parameters →
      requirement.subject.Lacks context testCase e → Obstacle context testCase requirement e

/-- Each definition is listed once. -/
theorem eq_of_mem_builtin {name : String} {first second : Requirement}
    (hfirst : (name, first) ∈ builtin) (hsecond : (name, second) ∈ builtin) : first = second := by
  have hnodup : (builtin.map Prod.fst).Nodup := by decide
  exact congrArg Prod.snd (List.inj_on_of_nodup_map hnodup hfirst hsecond rfl)

end Requirement

/-! ## Validators -/

namespace Validator

variable {requirement : Requirement} {metrics : List Metric}

/-- A validator gives a verdict if its requirement is met, and otherwise names what is missing. -/
def Follows (validator : Validator) (requirement : Requirement) : Prop :=
  ∀ context testCase, Settles (validator.validate context testCase)
    (requirement.Met context testCase) (requirement.Obstacle context testCase)

/-- A validator reads parameters and then looks at numbers. -/
theorem Follows.of_bind {α : Type} {validator : Validator} {read : TestCase → Answer α}
    {look : TableContext → TestCase → α → Answer Verdict}
    (hvalidate : ∀ context testCase,
      validator.validate context testCase = read testCase >>= look context testCase)
    (hread : ∀ testCase, Settles (read testCase) (testCase.Gives requirement.parameters)
      (testCase.Withholds requirement.parameters))
    (hlook : ∀ context testCase a, Settles (look context testCase a)
      (requirement.subject.Known context testCase) (requirement.subject.Lacks context testCase)) :
    validator.Follows requirement := by
  intro context testCase
  rw [hvalidate]
  refine ((hread testCase).bind fun a _ => hlook context testCase a).congr ?_ fun e => ?_
  · exact ⟨fun h => ⟨h.1, h.2⟩, fun h => ⟨h.given, h.known⟩⟩
  · constructor
    · rintro (hwithheld | ⟨hgiven, hlacking⟩)
      · exact .withheld hwithheld
      · exact .lacking hgiven hlacking
    · rintro (hwithheld | ⟨hgiven, hlacking⟩)
      · exact .inl hwithheld
      · exact .inr ⟨hgiven, hlacking⟩

/-- A validator without parameters only looks at numbers. -/
theorem Follows.of_subject {validator : Validator} {subject : Subject}
    (hlook : ∀ context testCase, Settles (validator.validate context testCase)
      (subject.Known context testCase) (subject.Lacks context testCase)) :
    validator.Follows ⟨[], subject⟩ := by
  intro context testCase
  have hgiven : testCase.Gives [] := by simp [TestCase.gives_iff]
  have hwithheld : ∀ e, ¬testCase.Withholds [] e := by simp [TestCase.withholds_iff]
  refine (hlook context testCase).congr ⟨fun hknown => ⟨hgiven, hknown⟩, fun h => h.known⟩
    fun e => ⟨fun hlacking => .lacking hgiven hlacking, ?_⟩
  rintro (h | ⟨-, hlacking⟩)
  · exact absurd h (hwithheld e)
  · exact hlacking

theorem follows_rowCountBetween :
    rowCountBetween.Follows ⟨["minValue", "maxValue"], .rows⟩ :=
  .of_bind (fun _ _ => rfl) (fun testCase => settles_ofParameters testCase _ _)
    fun context testCase _ => (settles_rowCount context testCase).returns _

theorem follows_rowCountEqual : rowCountEqual.Follows ⟨["value"], .rows⟩ :=
  .of_bind (fun _ _ => rfl) (fun testCase => settles_parameter testCase _)
    fun context testCase _ => (settles_rowCount context testCase).returns _

theorem follows_columnCountEqual : columnCountEqual.Follows ⟨["columnCount"], .columns⟩ :=
  .of_bind (fun _ _ => rfl) (fun testCase => settles_parameter testCase _)
    fun context testCase _ => (settles_columnCount context testCase).returns _

theorem follows_columnCountBetween :
    columnCountBetween.Follows ⟨["minColValue", "maxColValue"], .columns⟩ :=
  .of_bind (fun _ _ => rfl) (fun testCase => settles_ofParameters testCase _ _)
    fun context testCase _ => (settles_columnCount context testCase).returns _

theorem follows_valuesNotNull : valuesNotNull.Follows ⟨[], .column [.nullCount]⟩ :=
  .of_subject fun _ _ => settles_columnProfile_bind fun _ _ =>
    ((settles_known .nullCount Iff.rfl rfl).returns _).congr (by simp) fun e => by simp

theorem follows_valuesUnique :
    valuesUnique.Follows ⟨[], .column [.valuesCount, .uniqueCount]⟩ :=
  .of_subject fun _ _ => settles_columnProfile_bind fun _ _ =>
    ((settles_known .valuesCount Iff.rfl rfl).bind fun _ _ =>
      (settles_known .uniqueCount Iff.rfl rfl).returns _).congr (by simp)
      fun e => by simp

theorem follows_valuesBetween :
    valuesBetween.Follows ⟨["minValue", "maxValue"], .column [.min, .max]⟩ :=
  .of_bind (fun _ _ => rfl) (fun testCase => settles_ofParameters testCase _ _)
    fun _ _ _ => settles_columnProfile_bind fun _ _ =>
      ((settles_extreme .min Iff.rfl rfl).bind fun _ _ =>
        (settles_extreme .max Iff.rfl rfl).returns _).congr (by simp) fun e => by simp

end Validator

/-! ## The registry -/

namespace Check

variable {context : TableContext} {testCase : TestCase}

/-- The definition of a test case is a built-in one, and all that it needs is there. -/
inductive Ready (context : TableContext) (testCase : TestCase) : Prop where
  | intro {name : String} {requirement : Requirement} : testCase.definitionName? = some name →
      (name, requirement) ∈ Requirement.builtin → requirement.Met context testCase →
      Ready context testCase

/-- What first stands in the way of a verdict: that there is no definition, that it is not a
built-in one, or that something it needs is missing. -/
inductive FirstObstacle (context : TableContext) (testCase : TestCase) :
    ExecutionError → Prop where
  | undefined : testCase.definitionName? = none →
      FirstObstacle context testCase (.missingDefinition testCase.key)
  | unknown {name : String} : testCase.definitionName? = some name →
      name ∉ Requirement.builtin.map Prod.fst →
      FirstObstacle context testCase (.unknownDefinition name)
  | unmet {name : String} {requirement : Requirement} {e : ExecutionError} :
      testCase.definitionName? = some name → (name, requirement) ∈ Requirement.builtin →
      requirement.Obstacle context testCase e → FirstObstacle context testCase e

section Definition

variable {name : String} {requirement : Requirement} {e : ExecutionError}

theorem not_ready_of_undefined (h : testCase.definitionName? = none) :
    ¬Ready context testCase := by
  rintro ⟨hname, -⟩
  cases h.symm.trans hname

theorem firstObstacle_iff_of_undefined (h : testCase.definitionName? = none) :
    FirstObstacle context testCase e ↔ .missingDefinition testCase.key = e := by
  constructor
  · intro hobstacle
    cases hobstacle with
    | undefined => rfl
    | unknown hname => cases h.symm.trans hname
    | unmet hname => cases h.symm.trans hname
  · rintro rfl
    exact .undefined h

theorem not_ready_of_unlisted (h : testCase.definitionName? = some name)
    (hunlisted : name ∉ Requirement.builtin.map Prod.fst) : ¬Ready context testCase := by
  rintro ⟨hname, hlisted, -⟩
  cases h.symm.trans hname
  exact hunlisted (List.mem_map_of_mem hlisted)

theorem firstObstacle_iff_of_unlisted (h : testCase.definitionName? = some name)
    (hunlisted : name ∉ Requirement.builtin.map Prod.fst) :
    FirstObstacle context testCase e ↔ .unknownDefinition name = e := by
  constructor
  · intro hobstacle
    cases hobstacle with
    | undefined hundefined => cases h.symm.trans hundefined
    | unknown hname =>
        cases h.symm.trans hname
        rfl
    | unmet hname hlisted =>
        cases h.symm.trans hname
        exact absurd (List.mem_map_of_mem hlisted) hunlisted
  · rintro rfl
    exact .unknown h hunlisted

/-- What a built-in definition needs decides, since each is listed once. -/
theorem ready_iff_of_listed (h : testCase.definitionName? = some name)
    (hlisted : (name, requirement) ∈ Requirement.builtin) :
    Ready context testCase ↔ requirement.Met context testCase := by
  refine ⟨?_, .intro h hlisted⟩
  rintro ⟨hname, hmem, hmet⟩
  cases h.symm.trans hname
  rwa [Requirement.eq_of_mem_builtin hlisted hmem]

theorem firstObstacle_iff_of_listed (h : testCase.definitionName? = some name)
    (hlisted : (name, requirement) ∈ Requirement.builtin) :
    FirstObstacle context testCase e ↔ requirement.Obstacle context testCase e := by
  refine ⟨fun hobstacle => ?_, .unmet h hlisted⟩
  cases hobstacle with
  | undefined hundefined => cases h.symm.trans hundefined
  | unknown hname hunlisted =>
      cases h.symm.trans hname
      exact absurd (List.mem_map_of_mem hlisted) hunlisted
  | unmet hname hmem hobstacle =>
      cases h.symm.trans hname
      rwa [Requirement.eq_of_mem_builtin hlisted hmem]

end Definition

/-- A parameter that is given but no number stands in the way before anything else that a built-in
definition needs. -/
theorem FirstObstacle.exists_of_unfit {name : String} {requirement : Requirement}
    (hname : testCase.definitionName? = some name)
    (hlisted : (name, requirement) ∈ Requirement.builtin)
    (hunfit : ∃ parameter ∈ requirement.parameters, ¬testCase.FitFor parameter) :
    ∃ parameter ∈ requirement.parameters, ∃ text,
      testCase.parameter? parameter = some text ∧ ¬Numeric text ∧
      FirstObstacle context testCase (.invalidParameter testCase.key parameter text) := by
  have hfirst : ∃ e, FirstBad testCase.FitFor testCase.Unfit requirement.parameters e :=
    exists_firstBad (fun _ => TestCase.exists_unfit) hunfit
  obtain ⟨e, before, parameter, after, hsplit, hbefore, hparameter⟩ := hfirst
  have hmem : parameter ∈ requirement.parameters := by simp [hsplit]
  have hobstacle : FirstObstacle context testCase e :=
    .unmet hname hlisted
      (.withheld (.unfit ⟨before, parameter, after, hsplit, hbefore, hparameter⟩))
  obtain ⟨htext, hnumeric⟩ := hparameter
  exact ⟨parameter, hmem, _, htext, hnumeric, hobstacle⟩

end Check

theorem Verdict.status_toResult (verdict : Verdict) (time : Int64) :
    (verdict.toResult time).status = .success ∨ (verdict.toResult time).status = .failed := by
  rw [toResult]
  cases verdict.success
  · exact .inr rfl
  · exact .inl rfl

namespace ValidatorRegistry

variable {σ : Type}

/-- The validators of the registry stand in the order of what they need. -/
theorem forall₂_builtin :
    List.Forall₂ (fun validator entry => validator.name = entry.1 ∧ validator.Follows entry.2)
      builtin.validators Requirement.builtin :=
  .cons ⟨rfl, Validator.follows_rowCountBetween⟩ <|
  .cons ⟨rfl, Validator.follows_rowCountEqual⟩ <|
  .cons ⟨rfl, Validator.follows_columnCountEqual⟩ <|
  .cons ⟨rfl, Validator.follows_columnCountBetween⟩ <|
  .cons ⟨rfl, Validator.follows_valuesNotNull⟩ <|
  .cons ⟨rfl, Validator.follows_valuesUnique⟩ <|
  .cons ⟨rfl, Validator.follows_valuesBetween⟩ .nil

/-- A validator that is found under a name follows what is listed under it, and none is found
under a name that is not listed. -/
theorem find?_of_forall₂ {validators : List Validator} {entries : List (String × Requirement)}
    (h : List.Forall₂ (fun validator entry => validator.name = entry.1 ∧
      validator.Follows entry.2) validators entries) (name : String) :
    (validators.find? (·.name == name) = none ∧ name ∉ entries.map Prod.fst) ∨
      ∃ validator requirement, validators.find? (·.name == name) = some validator ∧
        (name, requirement) ∈ entries ∧ validator.Follows requirement := by
  induction h with
  | nil => exact .inl ⟨rfl, List.not_mem_nil⟩
  | @cons validator entry validators entries hfirst hrest ih =>
      obtain ⟨hname, hfollows⟩ := hfirst
      by_cases hsame : validator.name = name
      · refine .inr ⟨validator, entry.2, ?_, ?_, hfollows⟩
        · exact List.find?_cons_of_pos (by simpa using hsame)
        · rw [← hsame, hname]
          exact List.mem_cons_self
      · rw [List.find?_cons_of_neg (by simpa using hsame), List.map_cons, List.mem_cons, not_or]
        refine ih.imp (fun hnone => ⟨hnone.1, ?_, hnone.2⟩) ?_
        · exact fun heq => hsame (hname.trans heq.symm)
        · rintro ⟨found, requirement, hfound, hmem, hfollows⟩
          exact ⟨found, requirement, hfound, List.mem_cons_of_mem _ hmem, hfollows⟩

theorem settles_judge (context : TableContext) (testCase : TestCase) :
    Settles (builtin.judge context testCase) (Ready context testCase)
      (FirstObstacle context testCase) := by
  unfold judge
  cases hdefinition : testCase.definitionName? with
  | none =>
      exact (Settles.error _).congr (iff_of_false id (not_ready_of_undefined hdefinition)) fun _ =>
        (firstObstacle_iff_of_undefined hdefinition).symm
  | some name =>
      dsimp only [find?]
      rcases find?_of_forall₂ forall₂_builtin name with
        ⟨hnone, hunlisted⟩ | ⟨validator, requirement, hfound, hlisted, hfollows⟩
      · rw [hnone]
        exact (Settles.error _).congr
          (iff_of_false id (not_ready_of_unlisted hdefinition hunlisted)) fun _ =>
          (firstObstacle_iff_of_unlisted hdefinition hunlisted).symm
      · rw [hfound]
        exact (hfollows context testCase).congr (ready_iff_of_listed hdefinition hlisted).symm
          fun _ => (firstObstacle_iff_of_listed hdefinition hlisted).symm

/-- A verdict is dated and given as a result, an error as it is. -/
theorem attempt_executor (registry : ValidatorRegistry) (clock : Effect σ Int64)
    (context : TableContext) (testCase : TestCase) (world : World σ) :
    (Effect.attempt ((registry.executor clock).run context testCase) world).1 =
      (registry.judge context testCase).map fun verdict =>
        some (verdict.toResult (clock.run world).1) := by
  dsimp only [executor]
  cases registry.judge context testCase with
  | error e => rfl
  | ok verdict => rfl

variable {registry : ValidatorRegistry} {context : TableContext} {testCase : TestCase}
  {world : World σ}

theorem attempt_executor_eq_error_iff (clock : Effect σ Int64) {e : ExecutionError} :
    (Effect.attempt ((registry.executor clock).run context testCase) world).1 = .error e ↔
      registry.judge context testCase = .error e := by
  rw [attempt_executor]
  cases registry.judge context testCase <;> simp [Except.map]

theorem attempt_executor_eq_ok_iff (clock : Effect σ Int64) {result? : Option TestCaseResult} :
    (Effect.attempt ((registry.executor clock).run context testCase) world).1 = .ok result? ↔
      ∃ verdict, registry.judge context testCase = .ok verdict ∧
        some (verdict.toResult (clock.run world).1) = result? := by
  rw [attempt_executor]
  cases registry.judge context testCase <;> simp [Except.map]

/-- A test case of a given definition with given parameters, linked to a column of a table. -/
def linkedCase (definition : String) (parameters : List Parameter) : TestCase :=
  let suite : TestSuite := ⟨.ofNat 1, "nightly", none, none⟩
  let definition : TestDefinition := ⟨.ofNat 2, definition, none, none, none⟩
  { id := .ofNat 4
    name := "amounts"
    fullyQualifiedName := none
    description := none
    entityLink := "<#E::table::svc.db.sch.orders::columns::amount>"
    testSuite := Entity.reference suite
    testDefinition := Entity.reference definition
    parameterValues := parameters }

/-- A table whose least value of that column decides a range test by its lower bound. -/
def linkedContext : TableContext :=
  let profile : ColumnProfile := ⟨none, none, none, some (.int 1), some (.string " 7 ")⟩
  let columns : List Column := [⟨"amount", none, some profile⟩]
  ⟨none, ⟨.ofNat 3, "orders", some "svc.db.sch.orders", columns, none, none, none⟩, .rows none none⟩

end ValidatorRegistry

end DataQuality

import DataQuality.Proofs.Check.Verdicts

/-!
# Range tests

A test of two bounds is the conjunction of the tests of either bound alone. What is looked at does
not depend on the bounds, so the three tests rest on the same numbers or end with the same error,
and numbers lie between two bounds if they lie above the one and below the other. This holds of
all doubles, whatever the order makes of infinities and of what is not a number.
-/

namespace DataQuality

open Check

/-! ## Test cases that differ in their parameters -/

namespace TestCase

/-- The same test case with other parameters. -/
def withParameters (testCase : TestCase) (parameters : List Parameter) : TestCase :=
  { testCase with parameterValues := parameters }

/-- The same test case without any entry of a parameter. -/
def without (testCase : TestCase) (parameter : String) : TestCase :=
  testCase.withParameters (testCase.parameterValues.filter fun entry => entry.name ≠ parameter)

variable {testCase : TestCase} {name other : String}

theorem parameter?_without_self (testCase : TestCase) (name : String) :
    (testCase.without name).parameter? name = none := by
  simp [parameter?, without, withParameters]

theorem parameter?_without (h : other ≠ name) :
    (testCase.without name).parameter? other = testCase.parameter? other := by
  have hkept : ∀ entry : Parameter,
      decide (decide (entry.name ≠ name) = true ∧ (entry.name == other) = true) =
        (entry.name == other) := by
    intro entry
    by_cases hname : entry.name = other <;> simp [hname, h]
  simp only [parameter?, without, withParameters, List.find?_filter, hkept]

theorem key_without (testCase : TestCase) (name : String) :
    (testCase.without name).key = testCase.key := rfl

end TestCase

/-! ## Bounds -/

namespace Check

theorem parameter?_without_self (testCase : TestCase) (name : String) :
    parameter? (testCase.without name) name = .ok none := by
  rw [parameter?, TestCase.parameter?_without_self]

theorem parameter?_without {testCase : TestCase} {name other : String} (h : other ≠ name) :
    parameter? (testCase.without name) other = parameter? testCase other := by
  rw [parameter?, parameter?, TestCase.parameter?_without h, TestCase.key_without]

/-- The bounds of a range test are its two parameters, and one of them alone without the other. -/
theorem ofParameters_of_numeric {testCase : TestCase} {low high : String} {least greatest : Float}
    (hne : low ≠ high) (hlow : parameter? testCase low = .ok (some least))
    (hhigh : parameter? testCase high = .ok (some greatest)) :
    Bounds.ofParameters testCase low high = .ok (.between least greatest) ∧
      Bounds.ofParameters (testCase.without high) low high = .ok (.atLeast least) ∧
      Bounds.ofParameters (testCase.without low) low high = .ok (.atMost greatest) := by
  refine ⟨?_, ?_, ?_⟩
  · rw [ofParameters_eq, hlow, hhigh]
    rfl
  · rw [ofParameters_eq, parameter?_without hne, hlow, parameter?_without_self]
    rfl
  · rw [ofParameters_eq, parameter?_without_self, parameter?_without hne.symm, hhigh]
    rfl

theorem exists_number_of_numeric {testCase : TestCase} {name text : String}
    (hgiven : testCase.parameter? name = some text) (hnumeric : Numeric text) :
    ∃ x, parameter? testCase name = .ok (some x) := by
  obtain ⟨x, hx⟩ := Option.isSome_iff_exists.mp (isSome_number?_iff.mpr hnumeric)
  refine ⟨x, ?_⟩
  rw [parameter?, hgiven]
  dsimp only
  rw [hx]

/-- Numbers lie between two bounds if they lie above the one and below the other. -/
theorem all_between (numbers : List (String × Float)) (least greatest : Float) :
    (numbers.all fun number => (Bounds.between least greatest).has number.2) =
      ((numbers.all fun number => (Bounds.atLeast least).has number.2) &&
        numbers.all fun number => (Bounds.atMost greatest).has number.2) := by
  rw [Bool.eq_iff_iff]
  simp only [Bounds.has, Bool.and_eq_true, List.all_eq_true]
  exact forall₂_and

/-- A look at numbers gives the same error for all bounds, or else the same numbers, and succeeds
if all of them lie within the bounds. -/
inductive Measured (look : Bounds → Answer Verdict) : Prop where
  | missing (e : ExecutionError) : (∀ bounds, look bounds = .error e) → Measured look
  | found (numbers : List (String × Float)) (message : Bounds → String) :
      (∀ bounds, look bounds =
        .ok ⟨numbers.all fun number => bounds.has number.2, message bounds, numbers⟩) →
      Measured look

theorem Measured.bind {α : Type} {look : Bounds → α → Answer Verdict} (answer : Answer α)
    (h : ∀ a, Measured fun bounds => look bounds a) :
    Measured fun bounds => answer >>= look bounds := by
  cases answer with
  | error e => exact .missing e fun _ => rfl
  | ok a => exact h a

theorem Measured.verdict {success : Bounds → Bool} {message : Bounds → String}
    {numbers : List (String × Float)}
    (h : ∀ bounds, success bounds = numbers.all fun number => bounds.has number.2) :
    Measured fun bounds => pure ⟨success bounds, message bounds, numbers⟩ :=
  .found numbers message fun bounds => by
    rw [h]
    rfl

end Check

/-! ## The range tests -/

/-- The definitions that test a range, with their lower and their upper bound. -/
inductive Check.TestsRange : String → String → String → Prop where
  | rowCount : TestsRange "tableRowCountToBeBetween" "minValue" "maxValue"
  | columnCount : TestsRange "tableColumnCountToBeBetween" "minColValue" "maxColValue"
  | values : TestsRange "columnValuesToBeBetween" "minValue" "maxValue"

theorem Check.TestsRange.ne {definition low high : String} (h : TestsRange definition low high) :
    low ≠ high := by
  cases h <;> decide

namespace ValidatorRegistry

variable {σ : Type} {testCase : TestCase} {definition low high : String}

theorem judge_of_find? (testCase : TestCase) {registry : ValidatorRegistry}
    {validator : Validator} {name : String} (hname : testCase.definitionName? = some name)
    (hfind : registry.find? name = some validator) (context : TableContext) :
    registry.judge context testCase = validator.validate context testCase := by
  rw [judge, hname]
  dsimp only
  rw [hfind]

/-- A range test reads its bounds and then looks at numbers in a way that depends on no
parameter. -/
theorem exists_measured_of_testsRange (h : TestsRange definition low high)
    (hdefinition : testCase.definitionName? = some definition) (context : TableContext) :
    ∃ look, Measured look ∧ ∀ parameters,
      builtin.judge context (testCase.withParameters parameters) =
        Bounds.ofParameters (testCase.withParameters parameters) low high >>= look := by
  have hjudge : ∀ {validator : Validator}, builtin.find? definition = some validator →
      ∀ parameters, builtin.judge context (testCase.withParameters parameters) =
        validator.validate context (testCase.withParameters parameters) :=
    fun hfind parameters =>
      judge_of_find? (testCase.withParameters parameters) hdefinition hfind context
  cases h with
  | rowCount =>
      exact ⟨_, .bind (rowCount context) fun rows => .verdict fun bounds => by simp, hjudge rfl⟩
  | columnCount =>
      exact ⟨_, .bind (columnCount context) fun columns => .verdict fun bounds => by simp,
        hjudge rfl⟩
  | values =>
      exact ⟨_, .bind (columnProfile context testCase) fun column =>
        .bind (extreme column.2.min column.1 "min") fun least =>
          .bind (extreme column.2.max column.1 "max") fun greatest =>
            .verdict fun bounds => by simp, hjudge rfl⟩

/-- The three looks of a range test are at the same numbers, if there are numbers to look at. -/
theorem judge_range (h : TestsRange definition low high)
    (hdefinition : testCase.definitionName? = some definition) {least greatest : Float}
    (hlow : parameter? testCase low = .ok (some least))
    (hhigh : parameter? testCase high = .ok (some greatest)) (context : TableContext) :
    (∃ e, builtin.judge context testCase = .error e ∧
      builtin.judge context (testCase.without high) = .error e ∧
      builtin.judge context (testCase.without low) = .error e) ∨
    ∃ both above below, builtin.judge context testCase = .ok both ∧
      builtin.judge context (testCase.without high) = .ok above ∧
      builtin.judge context (testCase.without low) = .ok below ∧
      above.numbers = both.numbers ∧ below.numbers = both.numbers ∧
      both.success = (above.success && below.success) := by
  obtain ⟨look, hlook, hjudge⟩ := exists_measured_of_testsRange h hdefinition context
  obtain ⟨hboth, habove, hbelow⟩ := ofParameters_of_numeric h.ne hlow hhigh
  have hbothJudged : builtin.judge context testCase = look (.between least greatest) :=
    (hjudge testCase.parameterValues).trans (congrArg (· >>= look) hboth)
  have haboveJudged : builtin.judge context (testCase.without high) = look (.atLeast least) :=
    (hjudge _).trans (congrArg (· >>= look) habove)
  have hbelowJudged : builtin.judge context (testCase.without low) = look (.atMost greatest) :=
    (hjudge _).trans (congrArg (· >>= look) hbelow)
  rw [hbothJudged, haboveJudged, hbelowJudged]
  cases hlook with
  | missing e herror => exact .inl ⟨e, herror _, herror _, herror _⟩
  | found numbers message hfound =>
      exact .inr ⟨_, _, _, hfound _, hfound _, hfound _, rfl, rfl, all_between numbers _ _⟩

theorem toResult_status_eq_success_iff {verdict : Verdict} {time : Int64} :
    (verdict.toResult time).status = .success ↔ verdict.success = true := by
  rw [Verdict.toResult]
  cases verdict.success <;> simp

/-- A range test of two numbers is the conjunction of the tests of its bounds alone. Either all
three end with the same error, or they rest on the same numbers and the test of both bounds
succeeds exactly if those of either bound do, whenever each of them is run. -/
theorem executor_range_conjunction (clock : Effect σ Int64) (testCase : TestCase)
    (h : TestsRange definition low high)
    (hdefinition : testCase.definitionName? = some definition) {lowest highest : String}
    (hlow : testCase.parameter? low = some lowest) (hlowest : Numeric lowest)
    (hhigh : testCase.parameter? high = some highest) (hhighest : Numeric highest)
    (context : TableContext) (world world' world'' : World σ) :
    let run (testCase : TestCase) (world : World σ) :=
      (Effect.attempt ((builtin.executor clock).run context testCase) world).1
    (∃ e, run testCase world = .error e ∧ run (testCase.without high) world' = .error e ∧
      run (testCase.without low) world'' = .error e) ∨
    ∃ both above below, run testCase world = .ok (some both) ∧
      run (testCase.without high) world' = .ok (some above) ∧
      run (testCase.without low) world'' = .ok (some below) ∧
      above.values = both.values ∧ below.values = both.values ∧
      (both.status = .success ↔ above.status = .success ∧ below.status = .success) := by
  intro run
  have hrun : ∀ testCase world, run testCase world =
      (builtin.judge context testCase).map fun verdict =>
        some (verdict.toResult (clock.run world).1) :=
    attempt_executor builtin clock context
  obtain ⟨least, hleast⟩ := exists_number_of_numeric hlow hlowest
  obtain ⟨greatest, hgreatest⟩ := exists_number_of_numeric hhigh hhighest
  rw [hrun, hrun, hrun]
  rcases judge_range h hdefinition hleast hgreatest context with
    ⟨e, hboth, habove, hbelow⟩ | ⟨both, above, below, hboth, habove, hbelow, hsame, hsame', hand⟩
  · rw [hboth, habove, hbelow]
    exact .inl ⟨e, rfl, rfl, rfl⟩
  · rw [hboth, habove, hbelow]
    refine .inr ⟨_, _, _, rfl, rfl, rfl, ?_, ?_, ?_⟩
    · simp only [Verdict.toResult, hsame]
    · simp only [Verdict.toResult, hsame']
    · simp only [toResult_status_eq_success_iff, hand, Bool.and_eq_true]

/-- A test of the values of a column up to infinity, whose lower bound is not a number; a second
entry for the lower bound does not count, and goes with the first. -/
def boundlessCase : TestCase :=
  linkedCase "columnValuesToBeBetween"
    [⟨"minValue", "NaN"⟩, ⟨"maxValue", " inf "⟩, ⟨"minValue", "0"⟩]

/-- All three tests give results, on the same numbers. -/
theorem executor_range_conjunction_boundless :
    let run (testCase : TestCase) :=
      (Effect.attempt ((builtin.executor (pure 0)).run linkedContext testCase)
        (⟨(), []⟩ : World Unit)).1
    Numeric "NaN" ∧ Numeric " inf " ∧
    ∃ both above below, run boundlessCase = .ok (some both) ∧
      run (boundlessCase.without "maxValue") = .ok (some above) ∧
      run (boundlessCase.without "minValue") = .ok (some below) ∧
      above.values = both.values ∧ below.values = both.values ∧
      (both.status = .success ↔ above.status = .success ∧ below.status = .success) := by
  have hlowest : Numeric "NaN" := isSome_number?_iff.mp (by decide)
  have hhighest : Numeric " inf " := isSome_number?_iff.mp (by decide)
  intro run
  refine ⟨hlowest, hhighest, ?_⟩
  rcases executor_range_conjunction (pure 0) boundlessCase .values rfl rfl hlowest rfl hhighest
    linkedContext ⟨(), []⟩ ⟨(), []⟩ (⟨(), []⟩ : World Unit) with ⟨e, herror, -⟩ | h
  · exact nomatch herror
  · exact h

end ValidatorRegistry

end DataQuality

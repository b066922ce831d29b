import DataQuality.Proofs.Check.Verdicts

/-!
# What checks look at

Of a context the checks look at the name of the table, its profile, how many columns it lists and
the column that the link of the test case names. Contexts that agree on these are not told apart:
neither the connection, nor the rows that are chosen, nor the other columns and their order have an
influence on what is answered.
-/

namespace DataQuality

variable {first second : TableContext} {testCase : TestCase}

/-- Two contexts agree on what a test case is answered by: the name of the table, its profile, the
number of its columns, and the first column that the link names. -/
structure TableContext.AgreesOn (first second : TableContext) (testCase : TestCase) : Prop where
  tableName : first.tableName = second.tableName
  profile : first.table.profile = second.table.profile
  length : first.table.columns.length = second.table.columns.length
  linked : ∀ name ∈ EntityLink.columnOf? testCase.entityLink,
    first.table.column? name = second.table.column? name

namespace TableContext.AgreesOn

open Check

theorem rowCount (h : first.AgreesOn second testCase) :
    rowCount first = rowCount second := by
  rw [Check.rowCount, Check.rowCount, h.tableName, h.profile]

theorem columnCount (h : first.AgreesOn second testCase) :
    columnCount first = columnCount second := by
  have hempty : first.table.columns.isEmpty = second.table.columns.isEmpty := by
    rw [Bool.eq_iff_iff, List.isEmpty_iff_length_eq_zero, List.isEmpty_iff_length_eq_zero, h.length]
  rw [Check.columnCount, Check.columnCount, h.tableName, h.profile, h.length, hempty]

theorem columnProfile (h : first.AgreesOn second testCase) :
    columnProfile first testCase = columnProfile second testCase := by
  rw [Check.columnProfile, Check.columnProfile, h.tableName]
  cases hlinked : EntityLink.columnOf? testCase.entityLink with
  | none => rfl
  | some name =>
      dsimp only
      rw [h.linked name hlinked]

/-- Each of the validators looks at a context in one of these ways. -/
theorem validate (h : first.AgreesOn second testCase) :
    ∀ validator ∈ ValidatorRegistry.builtin.validators,
      validator.validate first testCase = validator.validate second testCase := by
  simp only [ValidatorRegistry.builtin, List.forall_mem_cons]
  refine ⟨?_, ?_, ?_, ?_, ?_, ?_, ?_, List.forall_mem_nil _⟩
  · simp only [Validator.rowCountBetween, h.rowCount]
  · simp only [Validator.rowCountEqual, h.rowCount]
  · simp only [Validator.columnCountEqual, h.columnCount]
  · simp only [Validator.columnCountBetween, h.columnCount]
  · simp only [Validator.valuesNotNull, h.columnProfile]
  · simp only [Validator.valuesUnique, h.columnProfile]
  · simp only [Validator.valuesBetween, h.columnProfile]

theorem judge (h : first.AgreesOn second testCase) :
    ValidatorRegistry.builtin.judge first testCase =
      ValidatorRegistry.builtin.judge second testCase := by
  unfold ValidatorRegistry.judge
  cases testCase.definitionName? with
  | none => rfl
  | some name =>
      dsimp only
      cases hfind : ValidatorRegistry.builtin.find? name with
      | none => rfl
      | some validator => exact h.validate validator (List.mem_of_find?_eq_some hfind)

end TableContext.AgreesOn

namespace ValidatorRegistry

variable {σ : Type}

/-- The built-in registry answers alike on contexts that agree on what the test case is answered
by: with the same error, or with the same verdict, message and numbers. Run in the same world, it
gives the same result with the same date. -/
theorem executor_reads_only_linked (h : first.AgreesOn second testCase) (clock : Effect σ Int64) :
    builtin.judge first testCase = builtin.judge second testCase ∧
      (builtin.executor clock).run first testCase =
        (builtin.executor clock).run second testCase := by
  refine ⟨h.judge, ?_⟩
  dsimp only [executor]
  rw [h.judge]

/-- A context that shares with another one what is looked at for its first column, and hardly
anything else: there is a connection, a query selects the rows, and a column of another name comes
first. -/
def strangeContext : TableContext :=
  let table : Table :=
    { linkedContext.table with
      id := .ofNat 9
      columns := ⟨"note", "TEXT", none⟩ :: linkedContext.table.columns
      profilerConfig := some ⟨none, "select 1"⟩
      partition := some ⟨["day"], .timeUnit, none⟩ }
  ⟨some ⟨.null⟩, table, .custom "select 1"⟩

/-- A context with two columns of one name, of which only the first is looked at. -/
def doubledContext : TableContext :=
  let profile : ColumnProfile := ⟨none, none, none, some (.int 100), none⟩
  { linkedContext with
    table := { linkedContext.table with
      columns := linkedContext.table.columns ++ [⟨"amount", none, some profile⟩] } }

/-- Neither of the two contexts has an influence of its own. -/
theorem executor_reads_only_linked_strange :
    let testCase := linkedCase "columnValuesToBeBetween" [⟨"minValue", "5"⟩]
    let clock : Effect Unit Int64 := pure 0
    strangeContext.AgreesOn doubledContext testCase ∧
      builtin.judge strangeContext testCase = builtin.judge doubledContext testCase ∧
      (builtin.executor clock).run strangeContext testCase =
        (builtin.executor clock).run doubledContext testCase := by
  intro testCase clock
  have hlinked : EntityLink.columnOf? testCase.entityLink = some "amount" := by decide
  have hagrees : strangeContext.AgreesOn doubledContext testCase := by
    refine ⟨rfl, rfl, rfl, fun name hname => ?_⟩
    cases hlinked.symm.trans hname
    rfl
  exact ⟨hagrees, executor_reads_only_linked hagrees clock⟩

end ValidatorRegistry

end DataQuality

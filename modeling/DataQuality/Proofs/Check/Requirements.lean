import DataQuality.Check.Validator
import DataQuality.Proofs.Decimal.Grammar
import DataQuality.Proofs.Effect
import DataQuality.Proofs.Settles

/-!
# What checks need

A check is made of numbers: parameters of its test case, and the numbers of a profile that it looks
at. It gives a verdict exactly if all of them are there, and otherwise says what is missing first:
the parameters come before the profile, and a parameter that is no number before one that is not
given at all.
-/

namespace DataQuality

open Check

/-! ## Numbers -/

namespace Check

/-- A text writes a number, blanks around it apart. -/
def Numeric (s : String) : Prop := Decimal.IsNumber (Text.trim s)

theorem isSome_number?_iff {s : String} : (number? s).isSome ↔ Numeric s :=
  Decimal.isSome_readFloat?_iff

/-- An untyped value stands for a number. -/
inductive NumericValue : Json → Prop where
  | int (n : Int) : NumericValue (.int n)
  | real (x : Float) : NumericValue (.real x)
  | string {s : String} : Numeric s → NumericValue (.string s)

theorem isSome_valueNumber?_iff {value : Json} :
    (valueNumber? value).isSome ↔ NumericValue value := by
  cases value with
  | int n => exact iff_of_true rfl (.int n)
  | real x => exact iff_of_true rfl (.real x)
  | string s =>
      refine isSome_number?_iff.trans ⟨.string, ?_⟩
      rintro ⟨⟩
      assumption
  | _ => exact iff_of_false Bool.false_ne_true nofun

end Check

/-! ## Parameters -/

section Parameters

variable {testCase : TestCase} {names : List String} {name low high : String}

namespace TestCase

/-- A parameter that is given is a number. -/
def FitFor (testCase : TestCase) (name : String) : Prop :=
  ∀ text, testCase.parameter? name = some text → Numeric text

/-- A parameter is given, but it is no number. -/
inductive Unfit (testCase : TestCase) (name : String) : ExecutionError → Prop where
  | intro {text : String} : testCase.parameter? name = some text → ¬Numeric text →
      Unfit testCase name (.invalidParameter testCase.key name text)

/-- Of these parameters, if any are asked for, one is given, and all that are given are numbers. -/
structure Gives (testCase : TestCase) (names : List String) : Prop where
  fit : ∀ name ∈ names, testCase.FitFor name
  given : names ≠ [] → ∃ name ∈ names, testCase.parameter? name ≠ none

/-- What is wrong first with these parameters: the first that is given without being a number, or
else that none is given. -/
inductive Withholds (testCase : TestCase) (names : List String) : ExecutionError → Prop where
  | unfit {e : ExecutionError} : FirstBad testCase.FitFor testCase.Unfit names e →
      Withholds testCase names e
  | absent : names ≠ [] → (∀ name ∈ names, testCase.parameter? name = none) →
      Withholds testCase names (.missingParameter testCase.key (" or ".intercalate names))

end TestCase

namespace Check

theorem settles_parameter? (testCase : TestCase) (name : String) :
    Settles (parameter? testCase name) (testCase.FitFor name) (testCase.Unfit name) := by
  cases hgiven : testCase.parameter? name with
  | none =>
      have hfit : testCase.FitFor name := fun text htext => nomatch hgiven.symm.trans htext
      have hunfit : ∀ e, ¬testCase.Unfit name e := fun e h => by
        obtain ⟨htext, -⟩ := h
        cases hgiven.symm.trans htext
      rw [parameter?, hgiven]
      exact (Settles.ok none).congr (by simp [hfit]) fun e => by simp [hunfit]
  | some text =>
      have hfit : testCase.FitFor name ↔ Numeric text := by simp [TestCase.FitFor, hgiven]
      have hunfit : ∀ e, testCase.Unfit name e ↔
          ¬Numeric text ∧ .invalidParameter testCase.key name text = e := by
        refine fun e => ⟨?_, ?_⟩
        · rintro ⟨htext, hnumeric⟩
          cases hgiven.symm.trans htext
          exact ⟨hnumeric, rfl⟩
        · rintro ⟨hnumeric, rfl⟩
          exact .intro hgiven hnumeric
      rw [parameter?, hgiven]
      dsimp only
      cases hnumber : number? text with
      | none =>
          have hnumeric : ¬Numeric text := by simp [← isSome_number?_iff, hnumber]
          exact (Settles.error _).congr (by simp [hfit, hnumeric]) fun e => by
            simp [hunfit, hnumeric]
      | some x =>
          have hnumeric : Numeric text := by simp [← isSome_number?_iff, hnumber]
          exact (Settles.ok _).congr (by simp [hfit, hnumeric]) fun e => by
            simp [hunfit, hnumeric]

/-- A number is found for a parameter exactly if the parameter is given. -/
theorem eq_none_iff_of_parameter? {testCase : TestCase} {name : String} {found : Option Float}
    (h : parameter? testCase name = .ok found) :
    testCase.parameter? name = none ↔ found = none := by
  unfold parameter? at h
  split at h
  next hnone =>
    cases h
    exact iff_of_true hnone rfl
  next text hsome =>
    split at h
    next =>
      cases h
      simp [hsome]
    next => cases h

end Check

namespace TestCase

theorem gives_iff : testCase.Gives names ↔
    (∀ name ∈ names, testCase.FitFor name) ∧
      (names ≠ [] → ∃ name ∈ names, testCase.parameter? name ≠ none) :=
  ⟨fun h => ⟨h.fit, h.given⟩, fun h => ⟨h.1, h.2⟩⟩

theorem withholds_iff {e : ExecutionError} : testCase.Withholds names e ↔
    FirstBad testCase.FitFor testCase.Unfit names e ∨
      names ≠ [] ∧ (∀ name ∈ names, testCase.parameter? name = none) ∧
        .missingParameter testCase.key (" or ".intercalate names) = e := by
  constructor
  · rintro (hunfit | ⟨hne, hnone⟩)
    · exact .inl hunfit
    · exact .inr ⟨hne, hnone, rfl⟩
  · rintro (hunfit | ⟨hne, hnone, rfl⟩)
    · exact .unfit hunfit
    · exact .absent hne hnone

theorem exists_unfit (h : ¬testCase.FitFor name) : ∃ e, testCase.Unfit name e := by
  simp only [FitFor, not_forall] at h
  obtain ⟨text, htext, hnumeric⟩ := h
  exact ⟨_, .intro htext hnumeric⟩

theorem FitFor.of_none (h : testCase.parameter? name = none) : testCase.FitFor name :=
  fun _ htext => nomatch h.symm.trans htext

end TestCase

namespace Check

/-- A number that may be missing, as one that may not. -/
def requiredOf (testCase : TestCase) (name : String) : Option Float → Answer Float
  | some x => .ok x
  | none => .error (.missingParameter testCase.key name)

theorem parameter_eq (testCase : TestCase) (name : String) :
    parameter testCase name = parameter? testCase name >>= requiredOf testCase name := by
  rw [parameter]
  rcases parameter? testCase name with e | _ | x <;> rfl

theorem settles_requiredOf {found : Option Float}
    (h : testCase.parameter? name = none ↔ found = none) :
    Settles (requiredOf testCase name found) (testCase.parameter? name ≠ none)
      fun e => testCase.parameter? name = none ∧ .missingParameter testCase.key name = e := by
  rcases found with _ | x
  · exact (Settles.error _).congr (by simp [h]) fun e => by simp [h]
  · exact (Settles.ok _).congr (by simp [h]) fun e => by simp [h]

theorem settles_parameter (testCase : TestCase) (name : String) :
    Settles (parameter testCase name) (testCase.Gives [name]) (testCase.Withholds [name]) := by
  rw [parameter_eq]
  refine ((settles_parameter? testCase name).bind fun found hfound =>
    settles_requiredOf (eq_none_iff_of_parameter? hfound)).congr ?_ fun e => ?_
  · rw [TestCase.gives_iff]
    simp
  · have hjoined : " or ".intercalate [name] = name := rfl
    have hfit : testCase.parameter? name = none → testCase.FitFor name := .of_none
    rw [TestCase.withholds_iff, hjoined]
    simp only [firstBad_cons, firstBad_nil, and_false, or_false, List.forall_mem_singleton]
    grind

/-- Two numbers that may be missing, as bounds. -/
def boundsOf (testCase : TestCase) (low high : String) :
    Option Float → Option Float → Answer Bounds
  | some least, some greatest => .ok (.between least greatest)
  | some least, none => .ok (.atLeast least)
  | none, some greatest => .ok (.atMost greatest)
  | none, none => .error (.missingParameter testCase.key (" or ".intercalate [low, high]))

theorem ofParameters_eq (testCase : TestCase) (low high : String) :
    Bounds.ofParameters testCase low high =
      parameter? testCase low >>= fun least? =>
        parameter? testCase high >>= boundsOf testCase low high least? := by
  rw [Bounds.ofParameters]
  rcases parameter? testCase low with e | least?
  · rfl
  · rcases parameter? testCase high with e | greatest?
    · rfl
    · rcases least? with _ | least <;> rcases greatest? with _ | greatest <;> rfl

theorem settles_boundsOf {least? greatest? : Option Float}
    (hlow : testCase.parameter? low = none ↔ least? = none)
    (hhigh : testCase.parameter? high = none ↔ greatest? = none) :
    Settles (boundsOf testCase low high least? greatest?)
      (testCase.parameter? low ≠ none ∨ testCase.parameter? high ≠ none)
      fun e => (testCase.parameter? low = none ∧ testCase.parameter? high = none) ∧
        .missingParameter testCase.key (" or ".intercalate [low, high]) = e := by
  rcases least? with _ | least <;> rcases greatest? with _ | greatest
  · exact (Settles.error _).congr (by simp [hlow, hhigh]) fun e => by simp [hlow, hhigh]
  all_goals exact (Settles.ok _).congr (by simp [hlow, hhigh]) fun e => by simp [hlow, hhigh]

theorem settles_ofParameters (testCase : TestCase) (low high : String) :
    Settles (Bounds.ofParameters testCase low high) (testCase.Gives [low, high])
      (testCase.Withholds [low, high]) := by
  rw [ofParameters_eq]
  refine ((settles_parameter? testCase low).bind fun least? hleast =>
    (settles_parameter? testCase high).bind fun greatest? hgreatest =>
      settles_boundsOf (eq_none_iff_of_parameter? hleast)
        (eq_none_iff_of_parameter? hgreatest)).congr ?_ fun e => ?_
  · rw [TestCase.gives_iff]
    simp [and_assoc]
  · rw [TestCase.withholds_iff]
    have hlow : testCase.parameter? low = none → testCase.FitFor low := .of_none
    have hhigh : testCase.parameter? high = none → testCase.FitFor high := .of_none
    simp only [firstBad_cons, firstBad_nil, and_false, or_false, List.forall_mem_cons]
    grind

end Check

end Parameters

/-! ## Profiles -/

/-- A number of a column's profile, under its name in messages. -/
structure Metric where
  name : String
  Known : ColumnProfile → Prop

namespace Metric

def valuesCount : Metric := ⟨"values count", fun profile => profile.valuesCount ≠ none⟩

def nullCount : Metric := ⟨"null count", fun profile => profile.nullCount ≠ none⟩

def uniqueCount : Metric := ⟨"unique count", fun profile => profile.uniqueCount ≠ none⟩

/-- The least value, if it is a number. -/
def min : Metric :=
  ⟨"numeric min", fun profile => ∃ value, profile.min = some value ∧ NumericValue value⟩

/-- The greatest value, if it is a number. -/
def max : Metric :=
  ⟨"numeric max", fun profile => ∃ value, profile.max = some value ∧ NumericValue value⟩

/-- A number is not known of a column. -/
inductive Unknown (column : String) (profile : ColumnProfile) (metric : Metric) :
    ExecutionError → Prop where
  | intro : ¬metric.Known profile →
      Unknown column profile metric (.missingProfile s!"{metric.name} of {column}")

end Metric

/-- What a check looks at beside its parameters: the number of rows, that of columns, or numbers
of one column. -/
inductive Subject where
  | rows
  | columns
  | column (metrics : List Metric)

section Profiles

variable {context : TableContext} {testCase : TestCase} {metrics : List Metric}

/-- The first column of the name in the link of a test case has a profile. -/
structure TableContext.Profiles (context : TableContext) (testCase : TestCase) (name : String)
    (profile : ColumnProfile) : Prop where
  linked : EntityLink.columnOf? testCase.entityLink = some name
  profiled : ∃ column, context.table.column? name = some column ∧ column.profile = some profile

namespace Subject

/-- The numbers to look at are there. -/
inductive Known (context : TableContext) (testCase : TestCase) : Subject → Prop where
  | rows {profile : TableProfile} : context.table.profile = some profile →
      profile.rowCount ≠ none → Known context testCase .rows
  | profiledColumns {profile : TableProfile} : context.table.profile = some profile →
      profile.columnCount ≠ none → Known context testCase .columns
  | listedColumns : context.table.columns ≠ [] → Known context testCase .columns
  | column {metrics : List Metric} {name : String} {profile : ColumnProfile} :
      context.Profiles testCase name profile → (∀ metric ∈ metrics, metric.Known profile) →
      Known context testCase (.column metrics)

/-- What is missing first of the numbers to look at. -/
inductive Lacks (context : TableContext) (testCase : TestCase) :
    Subject → ExecutionError → Prop where
  | unprofiled : context.table.profile = none →
      Lacks context testCase .rows (.missingProfile context.tableName)
  | uncountedRows {profile : TableProfile} : context.table.profile = some profile →
      profile.rowCount = none →
      Lacks context testCase .rows (.missingProfile s!"row count of {context.tableName}")
  | uncountedColumns : (∀ profile, context.table.profile = some profile →
        profile.columnCount = none) → context.table.columns = [] →
      Lacks context testCase .columns (.missingProfile s!"column count of {context.tableName}")
  | unlinked {metrics : List Metric} : EntityLink.columnOf? testCase.entityLink = none →
      Lacks context testCase (.column metrics) (.missingColumn testCase.key)
  | notFound {metrics : List Metric} {name : String} :
      EntityLink.columnOf? testCase.entityLink = some name → context.table.column? name = none →
      Lacks context testCase (.column metrics) (.columnNotFound context.tableName name)
  | unprofiledColumn {metrics : List Metric} {name : String} {column : Column} :
      EntityLink.columnOf? testCase.entityLink = some name →
      context.table.column? name = some column → column.profile = none →
      Lacks context testCase (.column metrics) (.missingProfile s!"{context.tableName}.{name}")
  | unknown {metrics : List Metric} {name : String} {profile : ColumnProfile}
      {e : ExecutionError} : context.Profiles testCase name profile →
      FirstBad (Metric.Known · profile) (Metric.Unknown name profile) metrics e →
      Lacks context testCase (.column metrics) e

end Subject

namespace Check

theorem settles_present (number : Option Float) (target : String) :
    Settles (present number target) (number ≠ none)
      fun e => number = none ∧ .missingProfile target = e := by
  cases number with
  | none => exact (Settles.error _).congr (by simp) fun e => by simp
  | some x => exact (Settles.ok x).congr (by simp) fun e => by simp

theorem settles_rowCount (context : TableContext) (testCase : TestCase) :
    Settles (rowCount context) (Subject.rows.Known context testCase)
      (Subject.rows.Lacks context testCase) := by
  cases hprofile : context.table.profile with
  | none =>
      rw [rowCount, hprofile]
      refine (Settles.error _).congr ?_ fun e => ⟨?_, ?_⟩
      · refine iff_of_false id ?_
        rintro ⟨hsome, -⟩
        cases hprofile.symm.trans hsome
      · rintro rfl
        exact .unprofiled hprofile
      · rintro (_ | ⟨hsome, -⟩)
        · rfl
        · cases hprofile.symm.trans hsome
  | some profile =>
      rw [rowCount, hprofile]
      refine (settles_present profile.rowCount _).congr ⟨.rows hprofile, ?_⟩ fun e => ⟨?_, ?_⟩
      · rintro ⟨hsome, hcount⟩
        cases hprofile.symm.trans hsome
        exact hcount
      · rintro ⟨hcount, rfl⟩
        exact .uncountedRows hprofile hcount
      · rintro (hnone | ⟨hsome, hcount⟩)
        · cases hprofile.symm.trans hnone
        · cases hprofile.symm.trans hsome
          exact ⟨hcount, rfl⟩

theorem settles_columnCount (context : TableContext) (testCase : TestCase) :
    Settles (columnCount context) (Subject.columns.Known context testCase)
      (Subject.columns.Lacks context testCase) := by
  cases hcount : context.table.profile.bind (·.columnCount) with
  | some count =>
      obtain ⟨profile, hprofile, hsome⟩ := Option.bind_eq_some_iff.mp hcount
      rw [columnCount, hcount]
      refine (Settles.ok count).congr ?_ fun e => iff_of_false id ?_
      · exact iff_of_true trivial (.profiledColumns hprofile (by simp [hsome]))
      · rintro (_ | _ | ⟨hnone, -⟩)
        cases hsome.symm.trans (hnone profile hprofile)
  | none =>
      have hnone : ∀ profile, context.table.profile = some profile → profile.columnCount = none :=
        Option.bind_eq_none_iff.mp hcount
      have hknown : Subject.columns.Known context testCase ↔ context.table.columns ≠ [] := by
        refine ⟨?_, .listedColumns⟩
        rintro (_ | ⟨hprofile, hsome⟩ | hlisted)
        · exact absurd (hnone _ hprofile) hsome
        · exact hlisted
      have hlacks : ∀ e, Subject.columns.Lacks context testCase e ↔
          context.table.columns = [] ∧
            .missingProfile s!"column count of {context.tableName}" = e := by
        refine fun e => ⟨?_, ?_⟩
        · rintro (_ | _ | ⟨-, hempty⟩)
          exact ⟨hempty, rfl⟩
        · rintro ⟨hempty, rfl⟩
          exact .uncountedColumns hnone hempty
      rw [columnCount, hcount]
      cases hcolumns : context.table.columns with
      | nil =>
          exact (Settles.error _).congr (by simp [hknown, hcolumns]) fun e => by
            rw [hlacks, hcolumns, and_iff_right rfl]
      | cons column others =>
          exact (Settles.ok _).congr (by simp [hknown, hcolumns]) fun e => by
            simp [hlacks, hcolumns]

/-- A number of a column's profile is there if it is known. -/
theorem settles_known (metric : Metric) {number : Option Float} {target column : String}
    {profile : ColumnProfile} (hknown : number ≠ none ↔ metric.Known profile)
    (htarget : target = s!"{metric.name} of {column}") :
    Settles (present number target) (metric.Known profile) (metric.Unknown column profile) := by
  have hunknown : number = none ↔ ¬metric.Known profile := by rw [← hknown, not_not]
  subst htarget
  refine (settles_present number _).congr hknown fun e => ⟨?_, ?_⟩
  · rintro ⟨hnone, rfl⟩
    exact .intro (hunknown.mp hnone)
  · rintro ⟨hmetric⟩
    exact ⟨hunknown.mpr hmetric, rfl⟩

theorem settles_extreme (metric : Metric) {value : Option Json} {name column : String}
    {profile : ColumnProfile}
    (hknown : (∃ found, value = some found ∧ NumericValue found) ↔ metric.Known profile)
    (hname : metric.name = s!"numeric {name}") :
    Settles (extreme value column name) (metric.Known profile) (metric.Unknown column profile) := by
  refine settles_known metric ?_ ?_
  · rw [← hknown, ← Option.isSome_iff_ne_none]
    cases value with
    | none => simp
    | some found => simp [← isSome_valueNumber?_iff]
  · rw [hname]
    rfl

theorem known_column_iff : (Subject.column metrics).Known context testCase ↔
    ∃ name, EntityLink.columnOf? testCase.entityLink = some name ∧
      ∃ column, context.table.column? name = some column ∧
        ∃ profile, column.profile = some profile ∧ ∀ metric ∈ metrics, metric.Known profile := by
  constructor
  · rintro (_ | _ | _ | ⟨⟨hlinked, column, hfound, hprofile⟩, hmetrics⟩)
    exact ⟨_, hlinked, column, hfound, _, hprofile, hmetrics⟩
  · rintro ⟨name, hlinked, column, hfound, profile, hprofile, hmetrics⟩
    exact .column ⟨hlinked, column, hfound, hprofile⟩ hmetrics

theorem lacks_column_iff {e : ExecutionError} :
    (Subject.column metrics).Lacks context testCase e ↔
      (EntityLink.columnOf? testCase.entityLink = none ∧ .missingColumn testCase.key = e) ∨
      ∃ name, EntityLink.columnOf? testCase.entityLink = some name ∧
        ((context.table.column? name = none ∧ .columnNotFound context.tableName name = e) ∨
        ∃ column, context.table.column? name = some column ∧
          ((column.profile = none ∧ .missingProfile s!"{context.tableName}.{name}" = e) ∨
          ∃ profile, column.profile = some profile ∧
            FirstBad (Metric.Known · profile) (Metric.Unknown name profile) metrics e)) := by
  constructor
  · intro h
    cases h with
    | unlinked hlinked => exact .inl ⟨hlinked, rfl⟩
    | notFound hlinked hfound => exact .inr ⟨_, hlinked, .inl ⟨hfound, rfl⟩⟩
    | unprofiledColumn hlinked hfound hprofile =>
        exact .inr ⟨_, hlinked, .inr ⟨_, hfound, .inl ⟨hprofile, rfl⟩⟩⟩
    | unknown hprofiles hmetrics =>
        obtain ⟨hlinked, column, hfound, hprofile⟩ := hprofiles
        exact .inr ⟨_, hlinked, .inr ⟨column, hfound, .inr ⟨_, hprofile, hmetrics⟩⟩⟩
  · rintro (⟨hlinked, rfl⟩ | ⟨name, hlinked, ⟨hfound, rfl⟩ | ⟨column, hfound, hcolumn⟩⟩)
    · exact .unlinked hlinked
    · exact .notFound hlinked hfound
    · rcases hcolumn with ⟨hprofile, rfl⟩ | ⟨profile, hprofile, hmetrics⟩
      · exact .unprofiledColumn hlinked hfound hprofile
      · exact .unknown ⟨hlinked, column, hfound, hprofile⟩ hmetrics

/-- The profile of a column, and then numbers of it. -/
theorem settles_columnProfile_bind {α : Type} {next : String × ColumnProfile → Answer α}
    (hnext : ∀ name profile, Settles (next (name, profile))
      (∀ metric ∈ metrics, metric.Known profile)
      (FirstBad (Metric.Known · profile) (Metric.Unknown name profile) metrics)) :
    Settles (columnProfile context testCase >>= next)
      ((Subject.column metrics).Known context testCase)
      ((Subject.column metrics).Lacks context testCase) := by
  unfold columnProfile
  cases hlinked : EntityLink.columnOf? testCase.entityLink with
  | none =>
      exact (Settles.error _).congr (by simp [known_column_iff, hlinked]) fun e => by
        simp [lacks_column_iff, hlinked]
  | some name =>
      dsimp only
      cases hfound : context.table.column? name with
      | none =>
          exact (Settles.error _).congr (by simp [known_column_iff, hlinked, hfound]) fun e => by
            simp [lacks_column_iff, hlinked, hfound]
      | some column =>
          dsimp only
          cases hprofile : column.profile with
          | none =>
              exact (Settles.error _).congr
                (by simp [known_column_iff, hlinked, hfound, hprofile]) fun e => by
                  simp [lacks_column_iff, hlinked, hfound, hprofile]
          | some profile =>
              exact (hnext name profile).congr
                (by simp [known_column_iff, hlinked, hfound, hprofile]) fun e => by
                  simp [lacks_column_iff, hlinked, hfound, hprofile]

end Check

end Profiles

end DataQuality

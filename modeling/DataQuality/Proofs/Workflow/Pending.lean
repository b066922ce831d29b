import DataQuality.Proofs.Workflow.Completion

/-!
# Pending declarations

What is pending beside stored test cases: of every name that is declared but not stored, its first
declaration, in the order of the declarations. Later declarations only add behind what is pending
already, and what is stored in addition only takes its own names away.
-/

namespace DataQuality.Declared

variable {names others : List String} {declared : List Declared}

/-! ## What is left of the declarations -/

/-- Only which names are given counts, not how often or in which order. -/
theorem firstOutside_congr (h : ∀ name, name ∈ names ↔ name ∈ others)
    (declared : List Declared) : firstOutside names declared = firstOutside others declared := by
  have hmem : ∀ name, name ∈ names ↔ name ∈ others ∨ name ∈ ([] : List String) := by
    intro name
    rw [h]
    simp
  rw [firstOutside_of_mem_iff hmem declared]
  simp

theorem firstOutside_sublist (names : List String) (declared : List Declared) :
    (firstOutside names declared).Sublist declared := by
  induction declared generalizing names with
  | nil => exact List.Sublist.refl []
  | cons first rest ih =>
      rw [firstOutside]
      split
      next => exact (ih names).cons first
      next => exact (ih _).cons_cons first

/-- Every declared name outside the given ones is left once. -/
theorem mem_names_firstOutside {name : String} :
    name ∈ (firstOutside names declared).map Declared.name ↔
      name ∈ declared.map Declared.name ∧ name ∉ names := by
  constructor
  · intro h
    obtain ⟨d, hd, rfl⟩ := List.mem_map.mp h
    obtain ⟨hdeclared, hname⟩ := mem_firstOutside hd
    exact ⟨List.mem_map_of_mem hdeclared, hname⟩
  · rintro ⟨hdeclared, hname⟩
    obtain ⟨d, hd, hsame⟩ := List.mem_map.mp hdeclared
    -- the first declaration of the name is the one that is left
    cases hfind : declared.find? fun other => other.name == name with
    | none => exact absurd hsame (by simpa using List.find?_eq_none.mp hfind d hd)
    | some first =>
        have hfirst : first.name = name := by simpa using List.find?_some hfind
        subst hfirst
        exact List.mem_map_of_mem (mem_firstOutside_iff.mpr ⟨hname, hfind⟩)

/-- What follows is left but for the names that come before it. -/
theorem firstOutside_append (names : List String) (declared rest : List Declared) :
    firstOutside names (declared ++ rest) =
      firstOutside names declared ++
        firstOutside (declared.map Declared.name ++ names) rest := by
  induction declared generalizing names with
  | nil => rfl
  | cons first others ih =>
      simp only [List.cons_append, firstOutside, List.map_cons]
      split
      next hname =>
        rw [ih]
        refine congrArg _ (firstOutside_congr (fun name => ?_) rest)
        constructor
        · exact List.mem_cons_of_mem _
        · rintro (_ | ⟨_, hmem⟩)
          · exact List.mem_append_right _ hname
          · exact hmem
      next =>
        rw [ih, List.cons_append]
        refine congrArg _ (congrArg _ (firstOutside_congr (fun name => ?_) rest))
        simp only [List.mem_append, List.mem_cons]
        exact or_left_comm

/-- Where no name comes twice or is given, all is left. -/
theorem firstOutside_eq_self (hnodup : (declared.map Declared.name).Nodup)
    (houtside : ∀ d ∈ declared, d.name ∉ names) : firstOutside names declared = declared := by
  induction declared generalizing names with
  | nil => rfl
  | cons first rest ih =>
      obtain ⟨hfirst, hrest⟩ := List.nodup_cons.mp hnodup
      rw [firstOutside, if_neg (houtside first List.mem_cons_self)]
      refine congrArg _ (ih hrest fun d hd => ?_)
      rw [List.mem_cons, not_or]
      refine ⟨fun hsame => ?_, houtside d (List.mem_cons_of_mem _ hd)⟩
      exact hfirst (hsame ▸ List.mem_map_of_mem hd)

/-! ## First declarations -/

/-- A declaration is the first of its name: no suite before its own declares the name, and its own
suite does not declare it earlier. -/
def IsFirst (suites : List SuiteDeclaration) (d : Declared) : Prop :=
  ∃ earlier later before after,
    suites = earlier ++ d.suite :: later ∧
    d.suite.testCases = before ++ d.testCase :: after ∧
    (∀ suite ∈ earlier, ∀ testCase ∈ suite.testCases, testCase.name ≠ d.name) ∧
    ∀ testCase ∈ before, testCase.name ≠ d.name

theorem ofSuites_cons (suite : SuiteDeclaration) (rest : List SuiteDeclaration) :
    ofSuites (suite :: rest) =
      suite.testCases.map (fun testCase => ⟨testCase, suite⟩) ++ ofSuites rest := rfl

/-- What a search for a name finds among the declarations of suites is its first declaration. -/
theorem isFirst_of_find? {suites : List SuiteDeclaration} {d : Declared}
    (h : (ofSuites suites).find? (fun other => other.name == d.name) = some d) :
    IsFirst suites d := by
  induction suites with
  | nil => cases h
  | cons suite rest ih =>
      rw [ofSuites_cons, List.find?_append, List.find?_map, Option.or_eq_some_iff] at h
      rcases h with hhere | ⟨hnone, hlater⟩
      · obtain ⟨testCase, hfind, rfl⟩ := Option.map_eq_some_iff.mp hhere
        obtain ⟨-, before, after, hsplit, hbefore⟩ := List.find?_eq_some_iff_append.mp hfind
        refine ⟨[], rest, before, after, rfl, hsplit, ?_, ?_⟩
        · exact fun _ hmem => absurd hmem List.not_mem_nil
        · intro other hother hsame
          have hnot := hbefore other hother
          simp [Declared.name, hsame] at hnot
      · obtain ⟨earlier, later, before, after, hsuites, hsplit, hearlier, hbefore⟩ := ih hlater
        refine ⟨suite :: earlier, later, before, after, ?_, hsplit, ?_, hbefore⟩
        · rw [hsuites, List.cons_append]
        · intro other hother
          rcases List.mem_cons.mp hother with rfl | hother
          · intro testCase hmem hsame
            have hnot := List.find?_eq_none.mp (Option.map_eq_none_iff.mp hnone) testCase hmem
            exact hnot (beq_iff_eq.mpr hsame)
          · exact hearlier other hother

/-! ## What is pending -/

/-- Declarations are the first ones of the names that suites declare and that are not stored. -/
structure FirstOfEach (suites : List SuiteDeclaration) (stored : List TestCase)
    (missing : List Declared) : Prop where
  sublist : missing.Sublist (ofSuites suites)
  distinct : (missing.map Declared.name).Nodup
  names : ∀ name, name ∈ missing.map Declared.name ↔
    (∃ suite ∈ suites, ∃ testCase ∈ suite.testCases, testCase.name = name) ∧
      ∀ testCase ∈ stored, testCase.name ≠ name
  first : ∀ d ∈ missing, IsFirst suites d

theorem mem_names_ofSuites {suites : List SuiteDeclaration} {name : String} :
    name ∈ (ofSuites suites).map Declared.name ↔
      ∃ suite ∈ suites, ∃ testCase ∈ suite.testCases, testCase.name = name := by
  simp only [ofSuites, List.map_flatMap, List.map_map, List.mem_flatMap, List.mem_map]
  rfl

theorem firstOfEach_pending (suites : List SuiteDeclaration) (stored : List TestCase) :
    FirstOfEach suites stored (pending (ofSuites suites) stored) where
  sublist := firstOutside_sublist _ _
  distinct := nodup_firstOutside _ _
  names name := by
    rw [pending, mem_names_firstOutside, mem_names_ofSuites]
    simp
  first d hmem := isFirst_of_find? (mem_firstOutside_iff.mp hmem).2

/-- What is pending is what is declared but not stored, by name, and of each name its first
declaration with the suite that declares it, in the order of the declarations: the declarations up
to any place determine how it begins. Nothing of it is lost when it is taken for the declarations
itself, and test cases that are stored in addition take away the declarations of their names and no
others. -/
theorem pending_firstOfEach (suites : List SuiteDeclaration) (stored : List TestCase) :
    let missing := pending (ofSuites suites) stored
    FirstOfEach suites stored missing ∧
      (∀ place, pending ((ofSuites suites).take place) stored <+: missing) ∧
      pending missing stored = missing ∧
      ∀ added, pending (ofSuites suites) (stored ++ added) =
        missing.filter fun d => d.name ∉ added.map (·.name) := by
  intro missing
  refine ⟨firstOfEach_pending suites stored, ?_, ?_, ?_⟩
  · intro place
    have hsplit := firstOutside_append (stored.map (·.name))
      ((ofSuites suites).take place) ((ofSuites suites).drop place)
    rw [List.take_append_drop] at hsplit
    exact ⟨_, hsplit.symm⟩
  · exact firstOutside_eq_self (nodup_firstOutside _ _) fun d hd => (mem_firstOutside hd).2
  · intro added
    apply firstOutside_of_mem_iff
    intro name
    rw [List.map_append, List.mem_append]

end DataQuality.Declared

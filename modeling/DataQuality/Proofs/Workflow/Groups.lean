import DataQuality.Proofs.Keyed
import DataQuality.Workflow.Groups
import Mathlib.Data.List.Induction

/-!
# What the groups hold

Grouping keeps every test case once: the groups are the test cases of each table that some link
names, in their order, and the unlinked ones are those whose link names none. Tables come in
increasing order of their names. There is only one such division of the test cases.
-/

namespace DataQuality.TableGroups

/-- The test cases whose link names a given table, or none. -/
def targeting (table : Option String) (testCases : List TestCase) : List TestCase :=
  testCases.filter fun testCase => EntityLink.tableOf? testCase.entityLink == table

theorem mem_targeting {table : Option String} {testCases : List TestCase} {testCase : TestCase} :
    testCase ∈ targeting table testCases ↔
      testCase ∈ testCases ∧ EntityLink.tableOf? testCase.entityLink = table := by
  simp [targeting]

theorem targeting_append_singleton (table : Option String) (testCases : List TestCase)
    (last : TestCase) :
    targeting table (testCases ++ [last]) =
      if EntityLink.tableOf? last.entityLink = table then targeting table testCases ++ [last]
      else targeting table testCases := by
  by_cases h : EntityLink.tableOf? last.entityLink = table
  · simp [targeting, h]
  · simp [targeting, h]

theorem ofTestCases_append_singleton (testCases : List TestCase) (last : TestCase) :
    ofTestCases (testCases ++ [last]) = (ofTestCases testCases).add last := by
  simp only [ofTestCases, List.foldl_append, List.foldl_cons, List.foldl_nil]

theorem unlinked_ofTestCases (testCases : List TestCase) :
    (ofTestCases testCases).unlinked = targeting none testCases := by
  induction testCases using List.reverseRecOn with
  | nil => rfl
  | append_singleton testCases last ih =>
      rw [ofTestCases_append_singleton, targeting_append_singleton, ← ih, add]
      cases EntityLink.tableOf? last.entityLink with
      | none => rfl
      | some table => rfl

theorem sorted_tables (testCases : List TestCase) :
    Keyed.Sorted (ofTestCases testCases).tables := by
  induction testCases using List.reverseRecOn with
  | nil => exact List.Pairwise.nil
  | append_singleton testCases last ih =>
      rw [ofTestCases_append_singleton, add]
      cases EntityLink.tableOf? last.entityLink with
      | none => exact ih
      | some table =>
          exact Keyed.sorted_alter ih table fun group => group.getD [] ++ [last]

/-- Under the name of a table stand the test cases of the table, if there are any. -/
theorem find?_tables (table : String) (testCases : List TestCase) :
    Keyed.find? table (ofTestCases testCases).tables =
      if targeting (some table) testCases = [] then none
      else some (targeting (some table) testCases) := by
  induction testCases using List.reverseRecOn with
  | nil => rfl
  | append_singleton testCases last ih =>
      rw [ofTestCases_append_singleton, targeting_append_singleton, add]
      cases hlast : EntityLink.tableOf? last.entityLink with
      | none => simpa using ih
      | some other =>
          simp only [Keyed.find?_alter]
          -- only the group of the last test case's own table changes
          by_cases htable : table = other
          · subst htable
            rw [if_pos rfl, if_pos rfl, ih]
            by_cases hnil : targeting (some table) testCases = []
            · simp [hnil]
            · simp [hnil]
          · rw [if_neg htable, ih, if_neg fun h => htable (Option.some.inj h).symm]

/-- A group holds the test cases of its table, and is not empty. -/
theorem mem_tables {testCases group : List TestCase} {table : String}
    (h : (table, group) ∈ (ofTestCases testCases).tables) :
    group = targeting (some table) testCases ∧ group ≠ [] := by
  have hfind := (Keyed.mem_iff_find? (sorted_tables testCases)).mp h
  rw [find?_tables] at hfind
  split at hfind
  next => cases hfind
  next hne =>
    cases hfind
    exact ⟨rfl, hne⟩

/-- The names of the tables that some link names, in increasing order. -/
def tableNames (testCases : List TestCase) : List String :=
  (ofTestCases testCases).tables.map (·.1)

theorem tableNames_pairwise (testCases : List TestCase) :
    (tableNames testCases).Pairwise (· < ·) :=
  List.pairwise_map.mpr (sorted_tables testCases)

theorem mem_tableNames {testCases : List TestCase} {table : String} :
    table ∈ tableNames testCases ↔
      ∃ testCase ∈ testCases, EntityLink.tableOf? testCase.entityLink = some table := by
  constructor
  · intro h
    obtain ⟨⟨name, group⟩, hmem, rfl⟩ := List.mem_map.mp h
    obtain ⟨hgroup, hne⟩ := mem_tables hmem
    obtain ⟨testCase, htestCase⟩ := List.exists_mem_of_ne_nil group hne
    exact ⟨testCase, mem_targeting.mp (hgroup ▸ htestCase)⟩
  · rintro ⟨testCase, hmem, htable⟩
    have hne : targeting (some table) testCases ≠ [] :=
      List.ne_nil_of_mem (mem_targeting.mpr ⟨hmem, htable⟩)
    have hfind := find?_tables table testCases
    rw [if_neg hne] at hfind
    exact List.mem_map.mpr ⟨_, Keyed.mem_of_find? hfind, rfl⟩

/-- The groups are the test cases of the named tables, table by table. -/
theorem tables_eq_map (testCases : List TestCase) :
    (ofTestCases testCases).tables =
      (tableNames testCases).map fun table => (table, targeting (some table) testCases) := by
  have hgroups : ∀ entry ∈ (ofTestCases testCases).tables,
      entry = (entry.1, targeting (some entry.1) testCases) := by
    rintro ⟨table, group⟩ hentry
    exact Prod.ext rfl (mem_tables hentry).1
  rw [tableNames, List.map_map]
  calc (ofTestCases testCases).tables
      = (ofTestCases testCases).tables.map id := List.map_id _ |>.symm
    _ = _ := List.map_congr_left hgroups

/-- One more member of a group is one more member of the groups. -/
theorem flatMap_alter_perm {entries : List (String × List TestCase)} (h : Keyed.Sorted entries)
    (table : String) (testCase : TestCase) :
    ((Keyed.alter table (fun group => group.getD [] ++ [testCase]) entries).flatMap (·.2)).Perm
      (entries.flatMap (·.2) ++ [testCase]) := by
  rw [Keyed.alter]
  induction entries with
  | nil => exact List.Perm.refl _
  | cons head rest ih =>
      obtain ⟨name, group⟩ := head
      obtain ⟨hhead, hrest⟩ := List.pairwise_cons.mp h
      -- the cases are those of an insertion: before the head, at it, and behind it
      by_cases hlt : table < name
      · have hnone : Keyed.find? table ((name, group) :: rest) = none := by
          refine Keyed.find?_eq_none_of_lt fun entry hentry => ?_
          rcases List.mem_cons.mp hentry with rfl | hentry
          · exact hlt
          · exact String.lt_trans hlt (hhead entry hentry)
        simp only [hnone, Keyed.insert, hlt, if_true, List.flatMap_cons, Option.getD_none,
          List.nil_append]
        exact List.perm_append_comm
      · by_cases heq : table = name
        · subst heq
          simp only [Keyed.find?, Keyed.insert, hlt, if_true, if_false, List.flatMap_cons,
            Option.getD_some, List.append_assoc]
          exact List.perm_append_comm.append_left group
        · simp only [Keyed.find?, Keyed.insert, hlt, heq, if_false, List.flatMap_cons,
            List.append_assoc]
          exact (ih hrest).append_left group

/-- The unlinked test cases and the groups are the test cases, each as often as it is given. -/
theorem perm_ofTestCases (testCases : List TestCase) :
    ((ofTestCases testCases).unlinked ++ (ofTestCases testCases).tables.flatMap (·.2)).Perm
      testCases := by
  induction testCases using List.reverseRecOn with
  | nil => exact List.Perm.refl _
  | append_singleton testCases last ih =>
      rw [ofTestCases_append_singleton, add]
      split
      next table _ =>
        have hgroups := flatMap_alter_perm (sorted_tables testCases) table last
        refine (hgroups.append_left _).trans ?_
        rw [← List.append_assoc]
        exact ih.append_right [last]
      next =>
        refine List.Perm.trans ?_ (ih.append_right [last])
        simp only [List.append_assoc]
        exact List.perm_append_comm.append_left _

/-! ## The only division -/

/-- Groups divide test cases by the tables that their links name. -/
structure Divides (groups : TableGroups) (testCases : List TestCase) : Prop where
  /-- Tables come in strictly increasing order of their names. -/
  increasing : (groups.tables.map (·.1)).Pairwise (· < ·)
  /-- There is a group for every table that some link names, and for no other. -/
  tables : ∀ table, table ∈ groups.tables.map (·.1) ↔ targeting (some table) testCases ≠ []
  /-- A group is what its table is named by, in the order of the test cases. -/
  group : ∀ table group, (table, group) ∈ groups.tables →
    group = targeting (some table) testCases
  unlinked : groups.unlinked = targeting none testCases
  /-- No test case is lost, and none is there more often than it is given. -/
  perm : (groups.unlinked ++ groups.tables.flatMap (·.2)).Perm testCases

theorem divides_ofTestCases (testCases : List TestCase) :
    (ofTestCases testCases).Divides testCases where
  increasing := tableNames_pairwise testCases
  tables table := by
    change table ∈ tableNames testCases ↔ _
    rw [mem_tableNames]
    constructor
    · rintro ⟨testCase, hmem, htable⟩
      exact List.ne_nil_of_mem (mem_targeting.mpr ⟨hmem, htable⟩)
    · intro hne
      obtain ⟨testCase, hmem⟩ := List.exists_mem_of_ne_nil _ hne
      exact ⟨testCase, mem_targeting.mp hmem⟩
  group table group hmem := (mem_tables hmem).1
  unlinked := unlinked_ofTestCases testCases
  perm := perm_ofTestCases testCases

variable {groups others : TableGroups} {testCases : List TestCase}

theorem Divides.mem_tables_iff (h : groups.Divides testCases) {entry : String × List TestCase} :
    entry ∈ groups.tables ↔
      entry.2 = targeting (some entry.1) testCases ∧
        targeting (some entry.1) testCases ≠ [] := by
  obtain ⟨table, group⟩ := entry
  constructor
  · intro hmem
    exact ⟨h.group table group hmem, (h.tables table).mp (List.mem_map_of_mem hmem)⟩
  · rintro ⟨hgroup, hne⟩
    obtain ⟨⟨name, other⟩, hmem, hname⟩ := List.mem_map.mp ((h.tables table).mpr hne)
    dsimp only at hname hgroup
    subst hname
    rw [hgroup, ← h.group name other hmem]
    exact hmem

theorem Divides.eq (h : groups.Divides testCases) (hothers : others.Divides testCases) :
    groups = others := by
  have hunlinked : groups.unlinked = others.unlinked := h.unlinked.trans hothers.unlinked.symm
  have htables : groups.tables = others.tables := by
    apply Keyed.Sorted.ext (List.pairwise_map.mp h.increasing)
      (List.pairwise_map.mp hothers.increasing)
    intro entry
    rw [h.mem_tables_iff, hothers.mem_tables_iff]
  cases groups
  cases others
  exact congrArg₂ TableGroups.mk htables hunlinked

/-- Grouping divides test cases by their tables, and nothing else does: every table that some link
names has a group, in increasing order of the names, which is made of the test cases that name it
in their order; those that name none stand apart in their order; and all of them together are the
test cases that were given. -/
theorem divides_iff_eq_ofTestCases (groups : TableGroups) (testCases : List TestCase) :
    groups.Divides testCases ↔ groups = ofTestCases testCases := by
  constructor
  · intro h
    exact h.eq (divides_ofTestCases testCases)
  · rintro rfl
    exact divides_ofTestCases testCases

end DataQuality.TableGroups

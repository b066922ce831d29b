import DataQuality.Catalog.TestCase
import DataQuality.EntityLink
import DataQuality.Keyed

/-!
# Groups by table

Test cases are run table by table, in order of the tables' names; within a table they keep their
order. Those whose link names no table stand apart.
-/

namespace DataQuality

/-- Test cases by the table that their link names. -/
structure TableGroups where
  /-- The groups, in order of the names of their tables. -/
  tables : List (String × List TestCase) := []
  unlinked : List TestCase := []
  deriving DecidableEq, Repr

namespace TableGroups

def add (groups : TableGroups) (testCase : TestCase) : TableGroups :=
  match EntityLink.tableOf? testCase.entityLink with
  | some table =>
      { groups with
        tables := Keyed.alter table (fun group => group.getD [] ++ [testCase]) groups.tables }
  | none => { groups with unlinked := groups.unlinked ++ [testCase] }

def ofTestCases (testCases : List TestCase) : TableGroups :=
  testCases.foldl add {}

end TableGroups

end DataQuality

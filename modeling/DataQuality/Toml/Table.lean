import DataQuality.Toml.Statement

/-!
# The table of a document

Statements are carried out one after the other. Keys go into the table that was opened last, which
takes its place among the others when the next one is opened.
-/

namespace DataQuality.Toml

/-- Where the open table belongs. -/
structure Opening where
  path : List String
  key : String
  /-- Whether it is one more table of a list. -/
  inList : Bool

/-- The tables so far: the root, and the open table unless it is the root itself. -/
structure Tables where
  root : Members
  opening : Option Opening
  current : Members

namespace Tables

/-- No statements yet. -/
def start : Tables := ⟨[], none, []⟩

/-- Puts the open table into its place. -/
def close (tables : Tables) : Option Members :=
  match tables.opening with
  | none => some tables.current
  | some opening =>
      let place (_ : Origin) (members : Members) : Option (Unit × Members) :=
        match opening.inList, members.find? opening.key with
        | false, none => some ((), members ++ [(opening.key, .table .header tables.current)])
        | true, some (.tables items) =>
            some ((), members.replace opening.key (.tables (items ++ [tables.current])))
        | _, _ => none
      (Members.change .header place opening.path .header tables.root).map (·.2)

/-- Opens a table. One that only headers of inner tables have made so far is taken up again. -/
def openTable (tables : Tables) (path : List String) (key : String) : Option Tables := do
  let root ← tables.close
  let take (_ : Origin) (members : Members) : Option (Members × Members) :=
    match members.find? key with
    | none => some ([], members)
    | some (.table .implied inner) => some (inner, members.remove key)
    | some _ => none
  let (current, root) ← Members.change .header take path .header root
  return ⟨root, some ⟨path, key, false⟩, current⟩

def openInList (tables : Tables) (path : List String) (key : String) : Option Tables := do
  let root ← tables.close
  let prepare (_ : Origin) (members : Members) : Option (Unit × Members) :=
    match members.find? key with
    | none => some ((), members ++ [(key, .tables [])])
    | some (.tables _) => some ((), members)
    | some _ => none
  let (_, root) ← Members.change .header prepare path .header root
  return ⟨root, some ⟨path, key, true⟩, []⟩

/-- Carries out a statement. -/
def run (tables : Tables) : Statement → Option Tables
  | .assign path key value =>
      (tables.current.assign .dotted .header path key value).map fun current =>
        { tables with current }
  | .header path key => tables.openTable path key
  | .listHeader path key => tables.openInList path key

end Tables

/-- The table of a text; a byte order mark before it is passed over. -/
def readTable? (s : String) : Option Members := do
  let cs := s.toList
  let cs := if cs.head? = some (Char.ofNat 0xFEFF) then cs.drop 1 else cs
  let statements ← Statement.readAll (cs.length + 1) cs
  let tables ← statements.foldlM Tables.run .start
  tables.close

end DataQuality.Toml

import DataQuality.Document.Datum
import DataQuality.Toml.Table

/-!
# Reading TOML text

A text is read as a whole: if anything in it is wrong, nothing of it can be read. A list can stand
for a record whatever its length, and a moment is a record of one member with a name of its own.
-/

namespace DataQuality.Toml

/-- The name of the one member of a moment. -/
def momentKey : String := "$__toml_private_datetime"

/-- Whether a value is an empty list or table, as the content of an alternative has to be. -/
def Value.isEmptyContent : Value → Bool
  | .list items => items.isEmpty
  | .table _ members => members.isEmpty
  | .tables items => items.isEmpty
  | _ => false

/-- The alternative that a table names by its first member; a table in braces has no other. -/
def Members.variant (origin : Origin) (members : Members) : Option String :=
  match members with
  | [] => none
  | (key, value) :: rest =>
      let single := !(origin == .inline || origin == .inlineDotted) || rest.isEmpty
      if single && value.isEmptyContent then some key else none

mutual

def Value.datum : Value → Datum
  | .text s => .text s
  | .int n => .scalar (.ofInt n)
  | .real x => .scalar (.ofValue (.ofFloat x))
  | .bool b => .scalar (.ofValue (.bool b))
  | .moment m => .record [(.text momentKey, .text m.render)] ⟨none, true⟩
  | .list items => .list (listData items) ⟨.atLeast, true⟩
  | .table origin members => .record (memberData members) ⟨Members.variant origin members, true⟩
  | .tables items => .list (tableData items) ⟨.atLeast, true⟩

def listData : List Value → List Datum
  | [] => []
  | item :: rest => item.datum :: listData rest

def memberData : List (String × Value) → List (Datum × Datum)
  | [] => []
  | (key, value) :: rest => (.text key, value.datum) :: memberData rest

def tableData : List (List (String × Value)) → List Datum
  | [] => []
  | members :: rest =>
      .record (memberData members) ⟨Members.variant .header members, true⟩ :: tableData rest

end

def readDocument (s : String) : Document :=
  match readTable? s with
  | some members => ⟨.record (memberData members) ⟨none, true⟩, true⟩
  | none => ⟨.broken, false⟩

end DataQuality.Toml

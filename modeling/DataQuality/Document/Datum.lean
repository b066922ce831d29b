import DataQuality.Json.Basic
import DataQuality.Decimal.Binary64

/-!
# Data read from a document

The common form of JSON, YAML and TOML documents. A scalar says what it can be read as, since
the notations differ in that: in YAML an unquoted `10` is a number where a number is wanted and
a text where a text is wanted. Two further forms stand for what cannot be read: `unusable` may
still be passed over, `broken` is where the text stops making sense. What comes before a broken
place stays readable, so that the first obstacle met is the one reported.
-/

namespace DataQuality

/-- What a scalar says of an optional value. -/
inductive Presence where
  /-- It is there. -/
  | given
  /-- It is not there. -/
  | missing
  /-- Neither: the scalar cannot be read as an optional value. -/
  | unclear
  deriving DecidableEq, Repr, Inhabited

/-- What a scalar can be read as. -/
structure Scalar where
  /-- A text. -/
  text : Option String
  /-- An untyped value. -/
  value : Option Json
  /-- A whole number. -/
  whole : Option Int
  /-- The name of an alternative. -/
  variant : Option String
  /-- Whether it stands for an optional value that is there. -/
  presence : Presence
  /-- Whether it stands for an empty list or record. -/
  blank : Bool
  deriving Repr, Inhabited

/-- Whether a list can stand for a record, giving its fields in order of declaration. -/
inductive Positional where
  /-- Never. -/
  | refused
  /-- If nothing follows the last field. -/
  | exact
  /-- Always; what follows the last field is passed over. -/
  | atLeast
  deriving DecidableEq, Repr

/-- What a list can be read as, beside a list. -/
structure ListUse where
  positional : Positional
  /-- Whether it can be read as an untyped value. -/
  untyped : Bool
  deriving DecidableEq, Repr

/-- What a record can be read as, beside a record. -/
structure RecordUse where
  /-- The alternative that it names. -/
  variant : Option String
  /-- Whether it can be read as an untyped value. -/
  untyped : Bool
  deriving DecidableEq, Repr

/-- A value as a document gives it. -/
inductive Datum where
  | scalar (scalar : Scalar)
  | list (items : List Datum) (use : ListUse)
  | record (members : List (Datum × Datum)) (use : RecordUse)
  /-- A value that can be passed over but not read. -/
  | unusable
  /-- The place where the text stops making sense. -/
  | broken
  deriving Inhabited

/-- A document: its one value, and whether the text ends properly after it. -/
structure Document where
  root : Datum
  complete : Bool

namespace Scalar

def ofText (s : String) : Scalar :=
  { text := some s, value := some (.string s), whole := none, variant := some s, presence := .given,
    blank := false }

def ofValue (value : Json) : Scalar :=
  { text := none, value := some value, whole := none, variant := none, presence := .given,
    blank := false }

/-- The scalar of a whole number. -/
def ofInt (n : Int) : Scalar :=
  { ofValue (.int n) with whole := some n }

def null : Scalar :=
  { ofValue .null with presence := .missing }

end Scalar

namespace Datum

def text (s : String) : Datum :=
  .scalar (.ofText s)

/-- What the datum says of an optional value. -/
def presence : Datum → Presence
  | .scalar s => s.presence
  | _ => .given

def jsonList (items : List Datum) : Datum :=
  .list items ⟨.exact, true⟩

/-- A record as JSON gives it: with a single member that is `null` it can name an alternative. -/
def jsonRecord (members : List (Datum × Datum)) : Datum :=
  .record members
    { variant :=
        match members with
        | [(.scalar key, value)] => if value.presence = .missing then key.text else none
        | _ => none
      untyped := true }

mutual

def ofSorted : Json → Datum
  | .null => .scalar .null
  | .bool b => .scalar (.ofValue (.bool b))
  | .int n => .scalar (.ofInt n)
  | .real x => .scalar (.ofValue (.real x))
  | .string s => .text s
  | .array items => jsonList (ofSortedItems items)
  | .object members => jsonRecord (ofSortedMembers members)

def ofSortedItems : List Json → List Datum
  | [] => []
  | item :: rest => ofSorted item :: ofSortedItems rest

def ofSortedMembers : List (String × Json) → List (Datum × Datum)
  | [] => []
  | (key, value) :: rest => (.text key, ofSorted value) :: ofSortedMembers rest

end

/-- The datum of a JSON value: members come in increasing order of their keys, and of several
with one key only the last. -/
def ofJson (value : Json) : Datum :=
  ofSorted value.sorted

mutual

/-- Whether the datum can be passed over: nothing in it is broken. -/
def isSound : Datum → Bool
  | .scalar _ => true
  | .list items _ => areSound items
  | .record members _ => membersSound members
  | .unusable => true
  | .broken => false

/-- Whether every item can be passed over. -/
def areSound : List Datum → Bool
  | [] => true
  | item :: rest => item.isSound && areSound rest

/-- Whether every key and value can be passed over. -/
def membersSound : List (Datum × Datum) → Bool
  | [] => true
  | (key, value) :: rest => key.isSound && value.isSound && membersSound rest

end

/-- The text of a datum that can be read as one. -/
def text? : Datum → Option String
  | .scalar s => s.text
  | _ => none

mutual

def value? : Datum → Option Json
  | .scalar s => s.value
  | .list items use => if use.untyped then (values? items).map .array else none
  | .record members use =>
      if use.untyped then (memberValues? members).map fun ms => .object (Keyed.ofList ms)
      else none
  | .unusable => none
  | .broken => none

/-- The untyped values of all items. -/
def values? : List Datum → Option (List Json)
  | [] => some []
  | item :: rest =>
      match item.value?, values? rest with
      | some value, some values => some (value :: values)
      | _, _ => none

def memberValues? : List (Datum × Datum) → Option (List (String × Json))
  | [] => some []
  | (key, value) :: rest =>
      match key.text?, value.value?, memberValues? rest with
      | some k, some v, some ms => some ((k, v) :: ms)
      | _, _, _ => none

end

end Datum

end DataQuality

import DataQuality.Decimal.Binary64
import DataQuality.Keyed

/-!
# JSON values

A value as a tree whose records keep their members in order. `sorted` gives the form in which a
value is kept once it has been read: members in increasing order of their keys, one per key, the
last of several counting.
-/

namespace DataQuality

/-- A JSON value. A number is a whole number or a double, as it was written. -/
inductive Json where
  | null
  | bool (value : Bool)
  | int (value : Int)
  | real (value : Float)
  | string (value : String)
  | array (items : List Json)
  | object (members : List (String × Json))
  deriving Repr, Inhabited

namespace Json

mutual

/-- The value with the members of every record sorted and without repeated keys. -/
def sorted : Json → Json
  | .array items => .array (sortedItems items)
  | .object members => .object (Keyed.ofList (sortedMembers members))
  | .null => .null
  | .bool b => .bool b
  | .int n => .int n
  | .real x => .real x
  | .string s => .string s

def sortedItems : List Json → List Json
  | [] => []
  | item :: rest => item.sorted :: sortedItems rest

def sortedMembers : List (String × Json) → List (String × Json)
  | [] => []
  | (key, value) :: rest => (key, value.sorted) :: sortedMembers rest

end

/-- The value of a record's member. -/
def get? (value : Json) (key : String) : Option Json :=
  match value with
  | .object members => (members.find? fun member => member.1 == key).map (·.2)
  | _ => none

def text? : Json → Option String
  | .string s => some s
  | _ => none

def isNull : Json → Bool
  | .null => true
  | _ => false

def record (members : List (String × Option Json)) : Json :=
  .object (members.filterMap fun member => member.2.map (member.1, ·))

/-- A text, or `null` when there is none. -/
def ofOption {α : Type} (encode : α → Json) : Option α → Json
  | some a => encode a
  | none => .null

/-- A double; one that is not finite has no JSON form and is given as `null`. -/
def ofFloat (x : Float) : Json :=
  if Decimal.isFinite x then .real x else .null

/-- An array of texts. -/
def strings (items : List String) : Json :=
  .array (items.map .string)

end Json

end DataQuality

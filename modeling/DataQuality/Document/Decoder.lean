import DataQuality.Document.Datum

/-!
# Decoding typed values

A decoder turns a datum into a value of a domain type, or says what is in the way. Records are
decoded field by field; when several fields cannot be decoded, the obstacle that comes first in
the document is the one reported. Members that no field asks for are passed over.
-/

namespace DataQuality

/-- Why a document cannot be read. -/
inductive DecodeError where
  /-- A parameter value that is neither text, number nor truth value. -/
  | parameter (got : Json)
  /-- Any other obstacle. -/
  | malformed
  deriving Repr, Inhabited

/-- A way to read a value of a type. -/
abbrev Decoder (α : Type) := Datum → Except DecodeError α

/-- An obstacle and the position of the member where it was met. -/
structure Obstacle where
  position : Nat
  cause : DecodeError

/-- The outcome of reading several members: a value, or the first obstacle. -/
inductive Attempt (α : Type) where
  | done (value : α)
  | stopped (obstacle : Obstacle)

namespace Attempt

/-- The outcome of one member. -/
def ofExcept {α : Type} (position : Nat) : Except DecodeError α → Attempt α
  | .ok a => .done a
  | .error cause => .stopped ⟨position, cause⟩

/-- Application; of two obstacles the earlier one stays. -/
def app {α β : Type} (f : Attempt (α → β)) (a : Unit → Attempt α) : Attempt β :=
  match f, a () with
  | .done f, .done a => .done (f a)
  | .done _, .stopped o => .stopped o
  | .stopped o, .done _ => .stopped o
  | .stopped o, .stopped o' => .stopped (if o'.position < o.position then o' else o)

instance : Seq Attempt := ⟨app⟩

instance : Functor Attempt where
  map f
    | .done a => .done (f a)
    | .stopped o => .stopped o

/-- The value, or the cause of the obstacle. -/
def result {α : Type} : Attempt α → Except DecodeError α
  | .done a => .ok a
  | .stopped o => .error o.cause

end Attempt

/-- The members of a record that fields ask for, each with its position, the number of members,
and the position of the first member that can be neither assigned to a field nor passed over. -/
structure Fields where
  given : List (String × Nat × Datum)
  size : Nat
  fault : Option Nat

namespace Fields

/-- No members at all. -/
def empty : Fields := ⟨[], 0, none⟩

/-- Takes one more member into account, as the next one. -/
def add (names : List String) (fields : Fields) (key value : Datum) : Fields :=
  let here := fields.size
  let next := { fields with size := here + 1 }
  let faulty := { next with fault := fields.fault <|> some here }
  match key.text? with
  | none => faulty
  | some name =>
      if names.contains name then
        if fields.given.any fun entry => entry.1 == name then faulty
        else { next with given := fields.given ++ [(name, here, value)] }
      else if value.isSound then next else faulty

def ofMembers (names : List String) (members : List (Datum × Datum)) : Fields :=
  members.foldl (fun fields member => fields.add names member.1 member.2) empty

/-- The fields that a list gives in order of declaration, together with what it gives too much. -/
def ofItems (names : List String) (items : List Datum) : Fields × List Datum :=
  let named := (names.zip items).zipIdx.map fun entry => (entry.1.1, entry.2, entry.1.2)
  (⟨named, named.length, none⟩, items.drop names.length)

def find? (fields : Fields) (name : String) : Option (Nat × Datum) :=
  (fields.given.find? fun entry => entry.1 == name).map (·.2)

/-- A field with a value for the case that it is missing. -/
def defaulted {α : Type} (fields : Fields) (name : String) (fallback : α) (decode : Decoder α) :
    Attempt α :=
  match fields.find? name with
  | some (position, value) => .ofExcept position (decode value)
  | none => .done fallback

def required {α : Type} (fields : Fields) (name : String) (decode : Decoder α) : Attempt α :=
  match fields.find? name with
  | some (position, value) => .ofExcept position (decode value)
  | none => .stopped ⟨fields.size, .malformed⟩

end Fields

namespace Decoder

/-- A value that may be absent. -/
def optional {α : Type} (decode : Decoder α) : Decoder (Option α) := fun datum =>
  match datum.presence with
  | .missing => .ok none
  | .unclear => .error .malformed
  | .given =>
      match decode datum with
      | .ok a => .ok (some a)
      | .error e => .error e

def text : Decoder String := fun datum =>
  match datum.text? with
  | some s => .ok s
  | none => .error .malformed

def value : Decoder Json := fun datum =>
  match datum.value? with
  | some v => .ok v
  | none => .error .malformed

/-- A whole number between two bounds, both included. -/
def whole (least greatest : Int) : Decoder Int := fun datum =>
  match datum with
  | .scalar s =>
      match s.whole with
      | some n => if least ≤ n ∧ n ≤ greatest then .ok n else .error .malformed
      | none => .error .malformed
  | _ => .error .malformed

/-- A signed word of sixty-four bits. -/
def int64 : Decoder Int64 := fun datum =>
  (whole Int64.minValue.toInt Int64.maxValue.toInt datum).map Int64.ofInt

/-- An unsigned word of sixty-four bits. -/
def uint64 : Decoder UInt64 := fun datum =>
  (whole 0 UInt64.size.pred datum).map fun n => UInt64.ofNat n.toNat

/-- An unsigned word of thirty-two bits. -/
def uint32 : Decoder UInt32 := fun datum =>
  (whole 0 UInt32.size.pred datum).map fun n => UInt32.ofNat n.toNat

/-- The double of a number; a whole number gives the nearest one. -/
def real? : Json → Option Float
  | .int n => some (Decimal.ofInt n)
  | .real x => some x
  | _ => none

/-- A double. Numbers of documents are finite. -/
def float : Decoder Float := fun datum =>
  match (datum.value?.bind real?).filter Decimal.isFinite with
  | some x => .ok x
  | none => .error .malformed

/-- The items of a list, up to the first obstacle. -/
def items {α : Type} (decode : Decoder α) : List Datum → Except DecodeError (List α)
  | [] => .ok []
  | item :: rest =>
      match decode item with
      | .error e => .error e
      | .ok a =>
          match items decode rest with
          | .error e => .error e
          | .ok as => .ok (a :: as)

def list {α : Type} (decode : Decoder α) : Decoder (List α)
  | .list entries _ => items decode entries
  | .scalar s => if s.blank then .ok [] else .error .malformed
  | _ => .error .malformed

/-- One of several named alternatives. -/
def variant {α : Type} (choose : String → Option α) : Decoder α := fun datum =>
  let name :=
    match datum with
    | .scalar s => s.variant
    | .record _ use => use.variant
    | _ => none
  match name.bind choose with
  | some a => .ok a
  | none => .error .malformed

/-- The value of an attempt, unless an earlier member can be neither assigned nor passed over. -/
def settle {α : Type} (fault : Option Nat) (attempt : Attempt α) : Except DecodeError α :=
  match fault, attempt with
  | none, attempt => attempt.result
  | some _, .done _ => .error .malformed
  | some position, .stopped o => .error (if o.position < position then o.cause else .malformed)

/-- A record with the given field names in order of declaration. -/
def record {α : Type} (names : List String) (build : Fields → Attempt α) : Decoder α
  | .record members _ =>
      let fields := Fields.ofMembers names members
      settle fields.fault (build fields)
  | .list entries use =>
      let (fields, surplus) := Fields.ofItems names entries
      match use.positional with
      | .refused => .error .malformed
      | .exact => settle (if surplus.isEmpty then none else some names.length) (build fields)
      | .atLeast => settle none (build fields)
  | .scalar s => if s.blank then settle none (build .empty) else .error .malformed
  | _ => .error .malformed

/-- Decodes the value of a document and then asks for its proper end. -/
def run {α : Type} (decode : Decoder α) (document : Document) : Except DecodeError α :=
  match decode document.root with
  | .error e => .error e
  | .ok a => if document.complete then .ok a else .error .malformed

end Decoder

end DataQuality

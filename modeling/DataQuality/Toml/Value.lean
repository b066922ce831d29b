import DataQuality.Toml.Moment

/-!
# Values and tables

Tables keep their members in the order in which they were made. How a table came to be decides
where it may be added to: a header opens a table once, keys with dots add only to tables made by
such keys, and a table in braces is closed for good.
-/

namespace DataQuality.Toml

/-- How a table came to be. -/
inductive Origin where
  /-- By a header of its own; the root counts as such. -/
  | header
  /-- By the header of a table inside it. -/
  | implied
  /-- By a key with dots. -/
  | dotted
  /-- In braces. -/
  | inline
  /-- By a key with dots, in braces. -/
  | inlineDotted
  deriving DecidableEq, Repr

/-- A value. A list of tables that headers make is told apart from a list in brackets. -/
inductive Value where
  | text (s : String)
  | int (n : Int)
  | real (x : Float)
  | bool (b : Bool)
  | moment (m : Moment)
  | list (items : List Value)
  | table (origin : Origin) (members : List (String × Value))
  | tables (items : List (List (String × Value)))
  deriving Inhabited

abbrev Members := List (String × Value)

namespace Members

def find? (members : Members) (key : String) : Option Value :=
  (List.find? (fun member => member.1 == key) members).map (·.2)

/-- Gives a key that is there another value, in its place. -/
def replace (members : Members) (key : String) (value : Value) : Members :=
  List.map (fun member => if member.1 == key then (key, value) else member) members

/-- Takes a key out. -/
def remove (members : Members) (key : String) : Members :=
  List.filter (fun member => member.1 != key) members

/-- Which tables a path may lead through, and what those are that it makes. -/
structure Route where
  made : Origin
  enters : Origin → Bool

def Route.header : Route := ⟨.implied, fun o => o == .header || o == .implied || o == .dotted⟩

/-- The route of a key with dots. -/
def Route.dotted : Route := ⟨.dotted, fun o => o == .implied || o == .dotted⟩

/-- The route of a key with dots in braces. -/
def Route.inline : Route := ⟨.inlineDotted, fun o => o == .inlineDotted⟩

/-- Applies a change to the table that a path leads to, making the tables on it that are not
there. Through a list of tables it leads to the last of them. -/
def change {α : Type} (route : Route) (f : Origin → Members → Option (α × Members)) :
    List String → Origin → Members → Option (α × Members)
  | [], origin, members => f origin members
  | key :: path, _, members =>
      match members.find? key with
      | none =>
          match change route f path route.made [] with
          | some (a, inner) => some (a, members ++ [(key, .table route.made inner)])
          | none => none
      | some (.table origin inner) =>
          if route.enters origin then
            match change route f path origin inner with
            | some (a, inner) => some (a, members.replace key (.table origin inner))
            | none => none
          else none
      | some (.tables items) =>
          match items.getLast? with
          | none => none
          | some inner =>
              match change route f path .header inner with
              | some (a, inner) =>
                  some (a, members.replace key (.tables (items.dropLast ++ [inner])))
              | none => none
      | some _ => none

/-- Adds a member that is not there. A key without dots does not add to a table made by keys with
dots, and the other way round. -/
def add (dotted : Bool) (key : String) (value : Value) (origin : Origin) (members : Members) :
    Option (Unit × Members) :=
  let madeByDots := origin == .dotted || origin == .inlineDotted
  if madeByDots != dotted || (members.find? key).isSome then none
  else some ((), members ++ [(key, value)])

def assign (route : Route) (origin : Origin) (members : Members) (path : List String)
    (key : String) (value : Value) : Option Members :=
  (change route (add (!path.isEmpty) key value) path origin members).map (·.2)

end Members

end DataQuality.Toml

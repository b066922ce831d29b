import DataQuality.Yaml.Layout
import DataQuality.Yaml.Node
import DataQuality.Yaml.Resolution

/-!
# Reading YAML text

The nodes of a document become data: scalars are resolved, and an alias stands for the node that
was last given its name. An alias inside the very node that it names cannot be read, neither can
one whose node would have to be followed too often. An alias to a name not given before breaks the
document off.
-/

namespace DataQuality.Yaml

/-- A node that was given a name: what it stands for, once it is complete, and how many aliases
have to be followed to read it. -/
structure Anchor where
  name : String
  target : Option (Datum × Nat)

/-- The names given so far, and how many aliases would have to be followed to read everything up
to here. -/
structure Anchors where
  given : Array Anchor
  followed : Nat

namespace Anchors

/-- No names. -/
def empty : Anchors := ⟨#[], 0⟩

def find? (anchors : Anchors) (name : String) : Option Anchor :=
  anchors.given.findRev? fun anchor => anchor.name == name

/-- Gives a name to a node that is not complete yet. -/
def begin (anchors : Anchors) (name : Option String) : Anchors :=
  match name with
  | some name => { anchors with given := anchors.given.push ⟨name, none⟩ }
  | none => anchors

/-- Completes the node that was begun when `before` were the names given. -/
def finish (anchors : Anchors) (name : Option String) (before : Anchors) (datum : Datum) :
    Anchors :=
  match name with
  | some name =>
      let anchor := ⟨name, some (datum, anchors.followed - before.followed)⟩
      { anchors with given := anchors.given.setIfInBounds before.given.size anchor }
  | none => anchors

end Anchors

namespace Node

mutual

/-- How many steps it takes to walk through a node without following aliases. -/
def steps : Node → Nat
  | .list _ items => 2 + stepsOfItems items
  | .record _ members => 2 + stepsOfMembers members
  | _ => 1

def stepsOfItems : List Node → Nat
  | [] => 0
  | item :: rest => item.steps + stepsOfItems rest

/-- The steps through all keys and values. -/
def stepsOfMembers : List (Node × Node) → Nat
  | [] => 0
  | (key, value) :: rest => key.steps + value.steps + stepsOfMembers rest

end

/-- Whether a tag names an alternative, which no untyped value can be. -/
def isAlternative (properties : Properties) : Bool :=
  (properties.tag.bind Tag.localName?).isSome

/-- A list or record at a depth that may be too great to be read. -/
def keepAt (depth : Nat) (datum : Datum) : Datum :=
  if depth = 0 ∧ datum.isSound then .unusable else datum

mutual

/-- The datum of a node. `depth` levels of lists and records can still be read, and `limit`
aliases can be followed. Without anchors the document has broken off. -/
def datum (limit depth : Nat) (anchors : Anchors) : Node → Datum × Option Anchors
  | .alias name =>
      match anchors.find? name with
      | some ⟨_, some (target, followed)⟩ =>
          (if limit < followed + 1 then .unusable else target,
            some { anchors with followed := anchors.followed + followed + 1 })
      | some ⟨_, none⟩ => (.unusable, some anchors)
      | none => (.broken, none)
  | .scalar properties style text =>
      let datum := .scalar (Resolution.scalar properties.tag style text)
      (datum, some ((anchors.begin properties.anchor).finish properties.anchor anchors datum))
  | .list properties items =>
      let (data, after) := itemData limit (depth - 1) (anchors.begin properties.anchor) items
      let datum := keepAt depth (.list data ⟨.refused, !isAlternative properties⟩)
      (datum, after.map fun after => after.finish properties.anchor anchors datum)
  | .record properties members =>
      let (data, after) := memberData limit (depth - 1) (anchors.begin properties.anchor) members
      let datum := keepAt depth (.record data ⟨none, !isAlternative properties⟩)
      (datum, after.map fun after => after.finish properties.anchor anchors datum)
  | .broken => (.broken, none)

/-- The data of the items of a list, up to where the document breaks off. -/
def itemData (limit depth : Nat) (anchors : Anchors) : List Node → List Datum × Option Anchors
  | [] => ([], some anchors)
  | item :: rest =>
      match datum limit depth anchors item with
      | (item, none) => ([item, .broken], none)
      | (item, some anchors) =>
          let (items, after) := itemData limit depth anchors rest
          (item :: items, after)

/-- The data of the members of a record, up to where the document breaks off. -/
def memberData (limit depth : Nat) (anchors : Anchors) :
    List (Node × Node) → List (Datum × Datum) × Option Anchors
  | [] => ([], some anchors)
  | (key, value) :: rest =>
      match datum limit depth anchors key with
      | (key, none) => ([(key, .broken)], none)
      | (key, some anchors) =>
          match datum limit depth anchors value with
          | (value, none) => ([(key, value), (.broken, .broken)], none)
          | (value, some anchors) =>
              let (members, after) := memberData limit depth anchors rest
              ((key, value) :: members, after)

end

end Node

/-- How many levels of lists and records are read. -/
def depthLimit : Nat := 128

/-- How many aliases are followed for each step through a document. -/
def aliasesPerStep : Nat := 100

/-- The document of a YAML text. Nothing of a text with characters that are not allowed can be
read, and a second document makes the first one incomplete. -/
def readDocument (s : String) : Document :=
  match Glyph.ofText? s with
  | none => ⟨.broken, false⟩
  | some text =>
      match Node.readRoot (Token.ofGlyphs text) with
      | none => ⟨.scalar Resolution.nothing, true⟩
      | some (root, rest) =>
          let (datum, anchors) := root.datum (aliasesPerStep * root.steps) depthLimit .empty
          ⟨datum, anchors.isSome && rest.any Node.endsProperly⟩

end DataQuality.Yaml

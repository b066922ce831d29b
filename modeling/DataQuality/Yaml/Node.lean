import DataQuality.Yaml.Token

/-!
# Nodes

The nodes of a document as they are written: scalars, lists and records with their properties, and
aliases by name. Where the tokens stop making sense a node is broken, and the lists and records
around it end there; what comes before is kept.
-/

namespace DataQuality.Yaml

/-- The name and the type that a node is given. -/
structure Properties where
  anchor : Option String
  tag : Option String
  deriving DecidableEq, Repr

/-- A node of a document. -/
inductive Node where
  | alias (name : String)
  | scalar (properties : Properties) (style : ScalarStyle) (text : String)
  | list (properties : Properties) (items : List Node)
  | record (properties : Properties) (members : List (Node × Node))
  | broken
  deriving Inhabited

/-- The handles of tags with what they stand for. -/
abbrev Shorthands := List (String × String)

/-- The handles that need no declaration. -/
def Shorthands.standard : Shorthands :=
  [("!", "!"), ("!!", "tag:yaml.org,2002:")]

/-- What was read and, unless the tokens broke off, those after it. -/
abbrev Reading (α : Type) := α × Option (List Token)

namespace Node

/-- The node that stands where nothing is written. -/
def empty : Node := .scalar ⟨none, none⟩ .plain ""

/-- A tag in full; absent when its handle stands for nothing. -/
def fullTag? (shorthands : Shorthands) (handle suffix : String) : Option String :=
  if handle = "" then some suffix
  else (shorthands.find? fun entry => entry.1 == handle).map fun entry => entry.2 ++ suffix

/-- The properties before a node, in either order. Absent when a tag has no meaning. -/
def readProperties (shorthands : Shorthands) : List Token → Option (Properties × List Token)
  | .anchor name :: .tag handle suffix :: rest =>
      (fullTag? shorthands handle suffix).map fun tag => (⟨some name, some tag⟩, rest)
  | .tag handle suffix :: .anchor name :: rest =>
      (fullTag? shorthands handle suffix).map fun tag => (⟨some name, some tag⟩, rest)
  | .anchor name :: rest => some (⟨some name, none⟩, rest)
  | .tag handle suffix :: rest =>
      (fullTag? shorthands handle suffix).map fun tag => (⟨none, some tag⟩, rest)
  | tokens => some (⟨none, none⟩, tokens)

/-- A scalar; the tag that says nothing is left out. -/
def ofScalar (properties : Properties) (style : ScalarStyle) (text : String) : Node :=
  if properties.tag = some "!" then .scalar { properties with tag := none } style text
  else .scalar properties style text

/-- Where a node may stand. -/
inductive Place where
  /-- Inside brackets. -/
  | flow
  /-- Laid out by indentation. -/
  | block
  /-- Laid out by indentation, as the key or value of a record: the items of a list need not be
  indented. -/
  | member
  deriving DecidableEq, Repr

/-- What stands for a part of a node that may be left out: nothing, if one of the given tokens
comes next. -/
def readUnless (stops : List Token) (read : List Token → Reading Node) (tokens : List Token) :
    Reading Node :=
  match tokens with
  | [] => (.broken, none)
  | token :: rest =>
      if stops.contains token then (empty, some (token :: rest)) else read (token :: rest)

/-- A value after its indicator, or nothing. -/
def readValue (stops : List Token) (read : List Token → Reading Node) (tokens : List Token) :
    Reading Node :=
  match tokens with
  | [] => (.broken, none)
  | .value :: rest => readUnless stops read rest
  | tokens => (empty, some tokens)

/-- The outcome for a list of which an item was read. -/
def addItem (item : Reading Node) (more : List Token → Reading (List Node)) :
    Reading (List Node) :=
  match item with
  | (item, none) => ([item, .broken], none)
  | (item, some after) =>
      let (items, rest) := more after
      (item :: items, rest)

/-- The outcome for a record of which a key was read. -/
def addMember (key : Reading Node) (value : List Token → Reading Node)
    (more : List Token → Reading (List (Node × Node))) : Reading (List (Node × Node)) :=
  match key with
  | (key, none) => ([(key, .broken)], none)
  | (key, some afterKey) =>
      match value afterKey with
      | (value, none) => ([(key, value), (.broken, .broken)], none)
      | (value, some after) =>
          let (members, rest) := more after
          ((key, value) :: members, rest)

/-- The tokens before which the key or value of a record laid out by indentation is left out. -/
def blockStops : List Token := [.key, .value, .blockEnd]

mutual

/-- A node with its properties; `fuel` bounds the number of steps. -/
def read (shorthands : Shorthands) (fuel : Nat) (place : Place) (tokens : List Token) :
    Reading Node :=
  match fuel with
  | 0 => (.broken, none)
  | fuel + 1 =>
      match tokens with
      | .alias name :: rest => (.alias name, some rest)
      | tokens =>
          match readProperties shorthands tokens with
          | none => (.broken, none)
          | some (_, []) => (.broken, none)
          | some (properties, token :: rest) =>
              match token, place with
              | .item, .member =>
                  let (items, after) := readItems shorthands fuel true (token :: rest)
                  (.list properties items, after)
              | .scalar style text, _ => (ofScalar properties style text, some rest)
              | .flowListStart, _ =>
                  let (items, after) := readFlowItems shorthands fuel true rest
                  (.list properties items, after)
              | .flowRecordStart, _ =>
                  let (members, after) := readFlowMembers shorthands fuel true rest
                  (.record properties members, after)
              | .blockListStart, .block | .blockListStart, .member =>
                  let (items, after) := readItems shorthands fuel false rest
                  (.list properties items, after)
              | .blockRecordStart, .block | .blockRecordStart, .member =>
                  let (members, after) := readMembers shorthands fuel rest
                  (.record properties members, after)
              | _, _ =>
                  if properties = ⟨none, none⟩ then (.broken, none)
                  else (.scalar properties .plain "", some (token :: rest))

/-- The items of a list laid out by indentation. One that is not indented ends where no item
begins, any other with a token of its own. -/
def readItems (shorthands : Shorthands) (fuel : Nat) (unindented : Bool) (tokens : List Token) :
    Reading (List Node) :=
  match fuel with
  | 0 => ([.broken], none)
  | fuel + 1 =>
      match tokens with
      | [] => ([.broken], none)
      | .item :: rest =>
          let stops := if unindented then .item :: blockStops else [.item, .blockEnd]
          addItem (readUnless stops (read shorthands fuel .block) rest)
            (readItems shorthands fuel unindented)
      | token :: rest =>
          if unindented then ([], some (token :: rest))
          else if token = .blockEnd then ([], some rest)
          else ([.broken], none)

/-- The members of a record laid out by indentation. -/
def readMembers (shorthands : Shorthands) (fuel : Nat) (tokens : List Token) :
    Reading (List (Node × Node)) :=
  match fuel with
  | 0 => ([(.broken, .broken)], none)
  | fuel + 1 =>
      match tokens with
      | .key :: rest =>
          addMember (readUnless blockStops (read shorthands fuel .member) rest)
            (readValue blockStops (read shorthands fuel .member))
            (readMembers shorthands fuel)
      | .blockEnd :: rest => ([], some rest)
      | _ => ([(.broken, .broken)], none)

/-- The items of a list in brackets. A key among them makes a record of a single member. When
that member has no key, the token after its indicator is passed over. -/
def readFlowItems (shorthands : Shorthands) (fuel : Nat) (first : Bool) (tokens : List Token) :
    Reading (List Node) :=
  match fuel with
  | 0 => ([.broken], none)
  | fuel + 1 =>
      let item (tokens : List Token) : Reading (List Node) :=
        match tokens with
        | [] => ([.broken], none)
        | .flowListEnd :: rest => ([], some rest)
        | .key :: rest =>
            let key : Reading Node :=
              match rest with
              | [] => (.broken, none)
              | .value :: after | .separator :: after | .flowListEnd :: after =>
                  (empty, some after)
              | rest => read shorthands fuel .flow rest
            let closing (after : List Token) : Reading (List (Node × Node)) :=
              if after.isEmpty then ([(.broken, .broken)], none) else ([], some after)
            let (members, after) :=
              addMember key
                (readValue [.separator, .flowListEnd] (read shorthands fuel .flow)) closing
            addItem (.record ⟨none, none⟩ members, after) (readFlowItems shorthands fuel false)
        | tokens =>
            addItem (read shorthands fuel .flow tokens) (readFlowItems shorthands fuel false)
      match first, tokens with
      | true, tokens => item tokens
      | false, .flowListEnd :: rest => ([], some rest)
      | false, .separator :: rest => item rest
      | false, _ => ([.broken], none)

/-- The members of a record in braces. -/
def readFlowMembers (shorthands : Shorthands) (fuel : Nat) (first : Bool) (tokens : List Token) :
    Reading (List (Node × Node)) :=
  match fuel with
  | 0 => ([(.broken, .broken)], none)
  | fuel + 1 =>
      let stops : List Token := [.separator, .flowRecordEnd]
      let member (tokens : List Token) : Reading (List (Node × Node)) :=
        match tokens with
        | [] => ([(.broken, .broken)], none)
        | .flowRecordEnd :: rest => ([], some rest)
        | .key :: rest =>
            addMember (readUnless (.value :: stops) (read shorthands fuel .flow) rest)
              (readValue stops (read shorthands fuel .flow))
              (readFlowMembers shorthands fuel false)
        | tokens =>
            addMember (read shorthands fuel .flow tokens)
              (fun after => if after.isEmpty then (.broken, none) else (empty, some after))
              (readFlowMembers shorthands fuel false)
      match first, tokens with
      | true, tokens => member tokens
      | false, .flowRecordEnd :: rest => ([], some rest)
      | false, .separator :: rest => member rest
      | false, _ => ([(.broken, .broken)], none)

end

/-- The handles declared by directives, and the tokens after them. Absent when a directive is
repeated or names a version that is not known. -/
def readDirectives (versioned : Bool) (declared : Shorthands) :
    List Token → Option (Shorthands × List Token)
  | .version major minor :: rest =>
      if versioned || major != 1 || (minor != 1 && minor != 2) then none
      else readDirectives true declared rest
  | .tagShorthand handle expansion :: rest =>
      if declared.any fun entry => entry.1 == handle then none
      else readDirectives versioned (declared ++ [(handle, expansion)]) rest
  | tokens => some (declared ++ Shorthands.standard, tokens)

/-- The one node of a document. Absent when there are no tokens but the end. -/
def readRoot (tokens : List Token) : Option (Reading Node) :=
  let fuel := 4 * tokens.length + 4
  match tokens with
  | [.streamEnd] => none
  | .version _ _ :: _ | .tagShorthand _ _ :: _ | .documentStart :: _ =>
      match readDirectives false [] tokens with
      | some (shorthands, .documentStart :: rest) =>
          match rest with
          | [] => some (.broken, none)
          | .version _ _ :: _ | .tagShorthand _ _ :: _ | .documentStart :: _ | .documentEnd :: _
          | .streamEnd :: _ => some (empty, some rest)
          | rest => some (read shorthands fuel .block rest)
      | _ => some (.broken, none)
  | tokens => some (read Shorthands.standard fuel .block tokens)

/-- Whether nothing but marks of its end follows a document. -/
def endsProperly : List Token → Bool
  | .documentEnd :: rest => endsProperly rest
  | tokens => tokens == [.streamEnd]

end Node

end DataQuality.Yaml

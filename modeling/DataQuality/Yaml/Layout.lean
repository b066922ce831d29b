import DataQuality.Yaml.Block
import DataQuality.Yaml.Plain
import DataQuality.Yaml.Quoted
import DataQuality.Yaml.Tag

/-!
# The layout of a document

A document is taken apart token by token. Lists and records outside of brackets begin and end with
the indentation of their lines. A key that no indicator announces is recognised only when its colon
is met, so until then its place is kept in mind: once the key's line is over, or too much of it has
been passed, it can no longer be a key. When the text stops making sense, the tokens before the
first place that may still turn out to be a key have been settled and remain.
-/

namespace DataQuality.Yaml

/-- A place where a key may have begun. -/
structure PossibleKey where
  /-- Whether nothing but a key may stand there. -/
  required : Bool
  /-- How many tokens come before it. -/
  position : Nat
  line : Nat
  column : Nat
  deriving Repr

/-- The greatest distance between the beginning of a key and its colon. -/
def PossibleKey.reach : Nat := 1024

/-- Whether the key can no longer end at a glyph. -/
def PossibleKey.isPast (key : PossibleKey) (g : Glyph) : Bool :=
  key.line < g.line || key.column + PossibleKey.reach < g.column

/-- What is known of a document at some place. -/
structure Layout where
  tokens : Array Token
  /-- The column of the innermost collection laid out by indentation, -1 outside of all. -/
  indent : Int
  /-- The columns of the collections around it. -/
  outer : List Int
  /-- The possible key in the innermost brackets. -/
  key : Option PossibleKey
  /-- The possible keys around each pair of brackets that is open. -/
  outerKeys : List (Option PossibleKey)
  /-- Whether a key may begin here without an indicator. -/
  keyAllowed : Bool

namespace Layout

/-- The layout at the beginning of a document. -/
def start : Layout :=
  { tokens := #[], indent := -1, outer := [], key := none, outerKeys := [], keyAllowed := true }

/-- Whether there are open brackets. -/
def inFlow (s : Layout) : Bool := !s.outerKeys.isEmpty

def push (s : Layout) (token : Token) : Layout :=
  { s with tokens := s.tokens.push token }

def insert (s : Layout) (position : Nat) (token : Token) : Layout :=
  { s with tokens := s.tokens.insertIdxIfInBounds position token }

/-- Whether and how keys may begin after the token that comes next. -/
def allowKey (s : Layout) (allowed : Bool) : Layout :=
  { s with keyAllowed := allowed }

/-- A possible key at a glyph; absent if it is over although it is required. -/
def settleKey (g : Glyph) : Option PossibleKey → Option (Option PossibleKey)
  | none => some none
  | some key =>
      if !key.isPast g then some (some key) else if key.required then none else some none

/-- Gives up the possible keys that are over; absent if one of them is required. -/
def settle (s : Layout) (text : List Glyph) : Option Layout := do
  match text with
  | [] => return s
  | g :: _ =>
      let key ← settleKey g s.key
      let outerKeys ← s.outerKeys.mapM (settleKey g)
      return { s with key, outerKeys }

/-- How many tokens are settled: those before the first possible key. -/
def settled (s : Layout) : Nat :=
  (s.key :: s.outerKeys).foldl
    (fun n key =>
      match key with
      | some key => min n key.position
      | none => n)
    s.tokens.size

/-- Gives up the possible key in the innermost brackets; absent if it is required. -/
def dropKey (s : Layout) : Option Layout :=
  match s.key with
  | some key => if key.required then none else some { s with key := none }
  | none => some s

def noteKey (s : Layout) (g : Glyph) : Option Layout :=
  if s.keyAllowed then do
    let s ← s.dropKey
    let required := !s.inFlow && s.indent == g.column
    return { s with key := some ⟨required, s.tokens.size, g.line, g.column⟩ }
  else some s

/-- Opens a collection at a column if it lies deeper than the innermost one; its token goes before
those after the first `position`. -/
def openAt (s : Layout) (column position : Nat) (token : Token) : Layout :=
  if !s.inFlow && s.indent < column then
    { s.insert position token with indent := column, outer := s.indent :: s.outer }
  else s

/-- Closes the collections that lie deeper than a column; `outer` are those around the innermost. -/
def closeFrom (column : Int) (s : Layout) : List Int → Layout
  | [] => s
  | indent :: outer =>
      if column < s.indent then
        closeFrom column { s.push .blockEnd with indent, outer } outer
      else s

def close (s : Layout) (column : Int) : Layout :=
  if s.inFlow then s else closeFrom column s s.outer

/-- The text from the next token on, and whether a key may begin there. Comments, spaces and
breaks are passed over, and a byte order mark at the very beginning; tabs only where no key may
begin. -/
def skip (inFlow keyAllowed inComment : Bool) : List Glyph → Bool × List Glyph
  | [] => (keyAllowed, [])
  | g :: rest =>
      if g.isBreak then skip inFlow (keyAllowed || !inFlow) false rest
      else if g.isEnd then (keyAllowed, g :: rest)
      else if inComment then skip inFlow keyAllowed true rest
      else if g.char = '#' then skip inFlow keyAllowed true rest
      else if g.char = ' ' ∨ (g.char = '\t' ∧ (inFlow ∨ keyAllowed = false)) ∨
          (g.char.toNat = 0xFEFF ∧ g.line = 0 ∧ g.column = 0) then
        skip inFlow keyAllowed false rest
      else (keyAllowed, g :: rest)

/-- The bracket that opens a list or a record. -/
def openBracket (s : Layout) (g : Glyph) (token : Token) : Option Layout := do
  let s ← s.noteKey g
  return { s.push token with outerKeys := s.key :: s.outerKeys, key := none, keyAllowed := true }

def closeBracket (s : Layout) (token : Token) : Option Layout := do
  let s ← s.dropKey
  let s := (s.push token).allowKey false
  match s.outerKeys with
  | key :: outerKeys => return { s with key, outerKeys }
  | [] => return s

/-- The indicator of an item or of a key, which may open a collection. -/
def indicator (s : Layout) (g : Glyph) (opening token : Token) (keyAfter : Bool) :
    Option Layout := do
  if !s.inFlow && !s.keyAllowed then none
  let s := s.openAt g.column s.tokens.size opening
  let s ← s.dropKey
  return (s.push token).allowKey keyAfter

/-- The indicator of a value. What comes before it turns out to be a key if it may be one. -/
def valueIndicator (s : Layout) (g : Glyph) : Option Layout :=
  match s.key with
  | some key =>
      let s := (s.insert key.position .key).openAt key.column key.position .blockRecordStart
      some (({ s with key := none }.push .value).allowKey false)
  | none =>
      if !s.inFlow && !s.keyAllowed then none
      else
        let s := s.openAt g.column s.tokens.size .blockRecordStart
        some ((s.push .value).allowKey (!s.inFlow))

/-- A token that may be the beginning of a key. -/
def keyPart (s : Layout) (g : Glyph) (read : Option (Token × List Glyph)) :
    Option (Layout × List Glyph) := do
  let s ← s.noteKey g
  let (token, after) ← read
  return ((s.push token).allowKey false, after)

def scalarToken (style : ScalarStyle) (read : Option (List Char × List Glyph)) :
    Option (Token × List Glyph) :=
  read.map fun (text, after) => (.scalar style (String.ofList text), after)

/-- Whether a plain scalar may begin with a glyph that the given text follows. -/
def startsPlain (inFlow : Bool) (g : Glyph) (rest : List Glyph) : Bool :=
  if g.char = '-' then !startsWith Glyph.isBlank rest
  else if g.char = '?' ∨ g.char = ':' then !inFlow && !startsWith Glyph.endsWord rest
  else
    !(g.endsWord || g.isFlowIndicator ||
      ['#', '&', '*', '!', '|', '>', '\x27', '\x22', '%', '@', '\x60'].contains g.char)

/-- A line that begins or ends a document. -/
def documentMark (s : Layout) (token : Token) (text : List Glyph) :
    Option (Layout × List Glyph) := do
  let s ← (s.close (-1)).dropKey
  return ((s.push token).allowKey false, text.drop 3)

/-- The token that begins with a glyph, after which `rest` comes. -/
def token (s : Layout) (g : Glyph) (rest : List Glyph) : Option (Layout × List Glyph) :=
  let atWordEnd := startsWith Glyph.endsWord rest
  let simple (s : Option Layout) : Option (Layout × List Glyph) := s.map fun s => (s, rest)
  if g.isEnd then do
    let s ← (s.close (-1)).dropKey
    return (s.push .streamEnd, [])
  else if g.column = 0 ∧ g.char = '%' then do
    let s ← (s.close (-1)).dropKey
    let (directive, after) ← Directive.read rest
    return ((s.push directive).allowKey false, after)
  else if startsWithMark '-' (g :: rest) then s.documentMark .documentStart (g :: rest)
  else if startsWithMark '.' (g :: rest) then s.documentMark .documentEnd (g :: rest)
  else if g.char = '[' then simple (s.openBracket g .flowListStart)
  else if g.char = '\x7b' then simple (s.openBracket g .flowRecordStart)
  else if g.char = ']' then simple (s.closeBracket .flowListEnd)
  else if g.char = '\x7d' then simple (s.closeBracket .flowRecordEnd)
  else if g.char = ',' then
    simple (s.dropKey.map fun s => (s.push .separator).allowKey true)
  else if g.char = '-' ∧ atWordEnd then simple (s.indicator g .blockListStart .item true)
  else if g.char = '?' ∧ (s.inFlow ∨ atWordEnd) then
    simple (s.indicator g .blockRecordStart .key (!s.inFlow))
  else if g.char = ':' ∧ (s.inFlow ∨ atWordEnd) then simple (s.valueIndicator g)
  else if g.char = '*' then
    s.keyPart g ((readAnchor rest).map fun (name, after) => (.alias name, after))
  else if g.char = '&' then
    s.keyPart g ((readAnchor rest).map fun (name, after) => (.anchor name, after))
  else if g.char = '!' then s.keyPart g (Tag.read s.inFlow rest)
  else if (g.char = '|' ∨ g.char = '>') ∧ !s.inFlow then do
    let s ← s.dropKey
    let folded := g.char == '>'
    let (scalar, after) ←
      scalarToken (if folded then .folded else .literal) (Block.read folded s.indent rest)
    return ((s.push scalar).allowKey true, after)
  else if g.char = '\x27' then s.keyPart g (scalarToken .quoted (Quoted.read true rest))
  else if g.char = '\x22' then s.keyPart g (scalarToken .quoted (Quoted.read false rest))
  else if startsPlain s.inFlow g rest then do
    let s ← s.noteKey g
    let reading ← Plain.read s.inFlow (s.indent + 1) (g :: rest)
    return ((s.push (.scalar .plain (String.ofList reading.text))).allowKey reading.endsAfterBreak,
      reading.after)
  else none

/-- The next token, with what has to come before it, and the text after it. -/
def next (s : Layout) (text : List Glyph) : Option (Layout × List Glyph) := do
  let (keyAllowed, text) := skip s.inFlow s.keyAllowed false text
  let s ← (s.allowKey keyAllowed).settle text
  match text with
  | [] => none
  | g :: rest => (s.close g.column).token g rest

/-- Whether an open pair of brackets has to be a key. -/
def awaitsKey (s : Layout) : Bool :=
  s.outerKeys.any fun key => key.any PossibleKey.required

/-- The tokens of a text. When the text stops making sense, or `fuel` is used up, only those that
were settled before remain, `kept` at least. -/
def run : Nat → Layout → Nat → List Glyph → List Token
  | 0, s, kept, _ => s.tokens.toList.take kept
  | fuel + 1, s, kept, text =>
      match s.settle text with
      | none => s.tokens.toList.take kept
      | some s =>
          match s.next text with
          | none => s.tokens.toList.take s.settled
          | some (last, []) =>
              if last.awaitsKey then s.tokens.toList.take s.settled else last.tokens.toList
          | some (next, rest) => run fuel next s.settled rest

end Layout

/-- The tokens of a document; the last one is the end of the stream, unless the text stops making
sense. Every token but that takes at least one glyph. -/
def Token.ofGlyphs (text : List Glyph) : List Token :=
  Layout.run (text.length + 1) .start 0 text

end DataQuality.Yaml

import DataQuality.Yaml.Glyph

/-!
# Block scalars

The lines of a block scalar are those indented at least as much as its first line. In a literal
scalar they are kept, in a folded one lines that do not begin with a blank are joined. A header
says what becomes of the breaks at the end, and may give the indentation.
-/

namespace DataQuality.Yaml.Block

/-- What becomes of the line breaks at the end. -/
inductive Chomping where
  /-- None is kept. -/
  | strip
  /-- The first is kept. -/
  | clip
  /-- All are kept. -/
  | keep
  deriving DecidableEq, Repr

/-- What the header says. -/
structure Header where
  chomping : Chomping
  indentation : Option Nat

/-- The sign for the breaks at the end, if there is one. -/
def readChomping (text : List Glyph) : Option Chomping × List Glyph :=
  match text with
  | g :: rest =>
      if g.char = '+' then (some .keep, rest)
      else if g.char = '-' then (some .strip, rest)
      else (none, text)
  | [] => (none, [])

/-- The digit for the indentation, if there is one; a zero is refused. -/
def readDigit (text : List Glyph) : Option (Option Nat × List Glyph) :=
  match text with
  | g :: rest =>
      if g.char = '0' then none
      else if g.char.isDigit then some (some (g.char.toNat - 48), rest)
      else some (none, text)
  | [] => some (none, [])

/-- The sign and the digit, in either order. -/
def readHeader (text : List Glyph) : Option (Header × List Glyph) := do
  let (first, text) := readChomping text
  let (digit, text) ← readDigit text
  let (second, text) :=
    match first, digit with
    | none, some _ => readChomping text
    | _, _ => (none, text)
  return (⟨(first <|> second).getD .clip, digit⟩, text)

/-- Whether a glyph belongs to the empty lines and the indentation before a line. -/
def isIndentation (indent : Nat) (g : Glyph) : Bool :=
  g.isBreak || (g.char == ' ' && g.column < indent)

/-- The breaks of empty lines and the line after them. Absent when a tab stands in the
indentation. -/
def readBreaks (indent : Nat) (text : List Glyph) : Option (List Char × List Glyph) :=
  let line := text.dropWhile (isIndentation indent)
  if startsWith (fun g => g.char == '\t' && g.column < indent) line then none
  else some (chars ((text.takeWhile (isIndentation indent)).filter Glyph.isBreak), line)

/-- The indentation that the text itself shows: that of its first line, or of a longer line of
spaces before it. -/
def shownIndentation (text : List Glyph) : Nat :=
  let isSpace (g : Glyph) : Bool := g.isBreak || g.char == ' '
  let ends := (text.takeWhile isSpace).filter Glyph.isBreak ++ (text.dropWhile isSpace).take 1
  ends.foldl (fun n g => max n g.column) 0

/-- Whether the line after the empty ones begins with a tab. -/
def startsWithTab (text : List Glyph) : Bool :=
  startsWithChar '\t' (text.dropWhile fun g => g.isBreak || g.char == ' ')

theorem length_le_of_readBreaks {indent : Nat} {text after : List Glyph} {breaks : List Char}
    (h : readBreaks indent text = some (breaks, after)) : after.length ≤ text.length := by
  simp only [readBreaks] at h
  split at h
  · simp at h
  · simp only [Option.some.injEq, Prod.mk.injEq] at h
    rw [← h.2]
    exact length_dropWhile_le _ text

/-- The break at the end of a line, if it has one, and the text after it. -/
def readBreak (text : List Glyph) : List Char × List Glyph :=
  match text with
  | g :: rest => if g.isBreak then ([g.char], rest) else ([], g :: rest)
  | [] => ([], [])

theorem length_readBreak_le (text : List Glyph) : (readBreak text).2.length ≤ text.length := by
  unfold readBreak
  split
  · split <;> simp
  · simp

/-- What has been read of a block scalar. -/
structure Reading where
  text : List Char
  /-- The break after the last line. -/
  lastBreak : List Char
  /-- The breaks of empty lines after it. -/
  emptyLines : List Char
  after : List Glyph

def joinLines (folded afterBlank beforeBlank : Bool) (lineBreak emptyLines : List Char) :
    List Char :=
  if folded && lineBreak == ['\n'] && !afterBlank && !beforeBlank then
    if emptyLines.isEmpty then [' '] else emptyLines
  else lineBreak ++ emptyLines

/-- The lines of a block scalar from here on. `lastBreak` and `emptyLines` are what was read since
the last line, and `afterBlank` says whether that line began with a blank. -/
def readLines (folded : Bool) (indent : Nat) (lastBreak emptyLines : List Char)
    (afterBlank : Bool) (text : List Glyph) : Option Reading :=
  match text with
  | [] => some ⟨[], lastBreak, emptyLines, []⟩
  | g :: rest =>
      if g.column = indent ∧ g.isEnd = false then
        let joint := joinLines folded afterBlank g.isBlank lastBreak emptyLines
        let line := g.char :: chars (rest.takeWhile fun g => !g.endsLine)
        let ending := readBreak (rest.dropWhile fun g => !g.endsLine)
        match _h : readBreaks indent ending.2 with
        | none => none
        | some (breaks, next) =>
            match readLines folded indent ending.1 breaks g.isBlank next with
            | none => none
            | some more => some { more with text := joint ++ line ++ more.text }
      else some ⟨[], lastBreak, emptyLines, g :: rest⟩
termination_by text.length
decreasing_by
  have h₁ := length_le_of_readBreaks _h
  have h₂ : ending.2.length ≤ _ := length_readBreak_le (rest.dropWhile fun g => !g.endsLine)
  have h₃ := length_dropWhile_le (fun g => !g.endsLine) rest
  simp only [List.length_cons]
  omega

/-- A block scalar after its indicator: its text and what follows it. `outer` is the column of the
collection around it. -/
def read (folded : Bool) (outer : Int) (text : List Glyph) : Option (List Char × List Glyph) := do
  let (header, text) ← readHeader text
  let text ← endLine? text
  let indent ←
    match header.indentation with
    | some n => some (outer.toNat + n)
    | none =>
        if startsWithTab text then none
        else some (max (shownIndentation text) (max (outer + 1).toNat 1))
  let (breaks, text) ← readBreaks indent text
  let reading ← readLines folded indent [] breaks false text
  let ending :=
    match header.chomping with
    | .strip => []
    | .clip => reading.lastBreak
    | .keep => reading.lastBreak ++ reading.emptyLines
  return (reading.text ++ ending, reading.after)

end DataQuality.Yaml.Block

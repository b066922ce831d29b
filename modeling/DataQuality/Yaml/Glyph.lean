/-!
# Characters with their places

The layout of a document carries meaning, so every character is taken together with its line and
column. A line break of any spelling is a single glyph, and a glyph of its own stands behind the
last character. The classes of glyphs and the folding of gaps are those of the format.
-/

namespace DataQuality.Yaml

/-- A character with its place; lines and columns count from zero. -/
structure Glyph where
  char : Char
  line : Nat
  column : Nat
  deriving DecidableEq, Repr

namespace Glyph

/-- Whether a character may stand in a document. -/
def isAllowed (c : Char) : Bool :=
  let n := c.toNat
  n == 9 || n == 10 || n == 13 || (32 ≤ n && n ≤ 126) || n == 0x85 ||
    (0xA0 ≤ n && n ≤ 0xFFFD) || 0x10000 ≤ n

/-- The glyphs of a text that begins at the given place. -/
def ofChars (line column : Nat) : List Char → List Glyph
  | [] => [⟨Char.ofNat 0, line, column⟩]
  | '\r' :: '\n' :: rest => ⟨'\n', line, column⟩ :: ofChars (line + 1) 0 rest
  | c :: rest =>
      if c = '\r' ∨ c = '\n' ∨ c.toNat = 0x85 then
        ⟨'\n', line, column⟩ :: ofChars (line + 1) 0 rest
      else if c.toNat = 0x2028 ∨ c.toNat = 0x2029 then
        ⟨c, line, column⟩ :: ofChars (line + 1) 0 rest
      else ⟨c, line, column⟩ :: ofChars line (column + 1) rest

/-- The glyphs of a document; absent when it holds a character that it may not hold. -/
def ofText? (s : String) : Option (List Glyph) :=
  if s.toList.all isAllowed then some (ofChars 0 0 s.toList) else none

/-- Whether it is the glyph behind the last character. -/
def isEnd (g : Glyph) : Bool := g.char.toNat == 0

/-- Whether it is a space or a tab. -/
def isBlank (g : Glyph) : Bool := g.char == ' ' || g.char == '\t'

def isBreak (g : Glyph) : Bool :=
  g.char == '\n' || g.char.toNat == 0x2028 || g.char.toNat == 0x2029

/-- Whether it can stand between two words of a scalar. -/
def isGap (g : Glyph) : Bool := g.isBlank || g.isBreak

/-- Whether nothing follows it on its line. -/
def endsLine (g : Glyph) : Bool := g.isBreak || g.isEnd

def endsWord (g : Glyph) : Bool := g.isBlank || g.isBreak || g.isEnd

/-- Whether it can stand in the name of an anchor, a tag handle or a directive. -/
def isNameChar (g : Glyph) : Bool := g.char.isAlphanum || g.char == '_' || g.char == '-'

/-- Whether it is an indicator of a list or record in brackets. -/
def isFlowIndicator (g : Glyph) : Bool :=
  [',', '[', ']', '\x7b', '\x7d'].contains g.char

end Glyph

def chars (text : List Glyph) : List Char := text.map Glyph.char

/-- Whether the text begins with a glyph of a class. -/
def startsWith (p : Glyph → Bool) : List Glyph → Bool
  | g :: _ => p g
  | [] => false

/-- Whether the text begins with a character. -/
def startsWithChar (c : Char) (text : List Glyph) : Bool :=
  startsWith (fun g => g.char == c) text

/-- Whether a line begins here with three times the given character as a word of its own. -/
def startsWithMark (c : Char) : List Glyph → Bool
  | x :: y :: z :: next :: _ =>
      x.column == 0 && x.char == c && y.char == c && z.char == c && next.endsWord
  | _ => false

/-- Whether a line that begins or ends a document is here. -/
def atDocumentMark (text : List Glyph) : Bool :=
  startsWithMark '-' text || startsWithMark '.' text

/-- The text after the blanks, the comment and the break that end a line; absent when there is
anything else. -/
def endLine? (text : List Glyph) : Option (List Glyph) :=
  let text := text.dropWhile Glyph.isBlank
  let text :=
    if startsWithChar '#' text then text.dropWhile fun g => !g.endsLine else text
  match text with
  | g :: rest => if g.isBreak then some rest else if g.isEnd then some (g :: rest) else none
  | [] => none

/-- What a gap inside a scalar stands for. A gap within a line stands for itself; a single break
becomes a space, and of several the first is left out unless it is a separator. Behind an escaped
break, only the further breaks count. -/
def foldGap (escaped : Bool) (gap : List Glyph) : List Char :=
  let breaks := chars (gap.filter Glyph.isBreak)
  if escaped then breaks
  else
    match breaks with
    | [] => chars gap
    | ['\n'] => [' ']
    | '\n' :: more => more
    | breaks => breaks

/-- Leaving out a beginning does not make a text longer. -/
theorem length_dropWhile_le (p : Glyph → Bool) (text : List Glyph) :
    (text.dropWhile p).length ≤ text.length := by
  induction text with
  | nil => simp
  | cons g rest ih =>
      rw [List.dropWhile_cons]
      split
      · exact Nat.le_succ_of_le ih
      · exact Nat.le_refl _

end DataQuality.Yaml

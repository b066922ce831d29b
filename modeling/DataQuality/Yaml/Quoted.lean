import DataQuality.Text.Basic
import DataQuality.Yaml.Glyph

/-!
# Quoted scalars

In single quotes only a quote is special, written twice. In double quotes a backslash starts an
escape, and one before a line break joins two lines. Gaps with breaks are folded in both.
-/

namespace DataQuality.Yaml.Quoted

/-- The character that an escape of a single letter stands for. -/
def escaped? (c : Char) : Option Char :=
  if c = '0' then some (Char.ofNat 0)
  else if c = 'a' then some (Char.ofNat 7)
  else if c = 'b' then some (Char.ofNat 8)
  else if c = 't' ∨ c = '\t' then some '\t'
  else if c = 'n' then some '\n'
  else if c = 'v' then some (Char.ofNat 11)
  else if c = 'f' then some (Char.ofNat 12)
  else if c = 'r' then some '\r'
  else if c = 'e' then some (Char.ofNat 27)
  else if c = ' ' ∨ c = '\x22' ∨ c = '/' ∨ c = '\\' then some c
  else if c = 'N' then some (Char.ofNat 0x85)
  else if c = '_' then some (Char.ofNat 0xA0)
  else if c = 'L' then some (Char.ofNat 0x2028)
  else if c = 'P' then some (Char.ofNat 0x2029)
  else none

/-- How many digits follow the letter of an escape by number. -/
def codeLength? (c : Char) : Option Nat :=
  if c = 'x' then some 2
  else if c = 'u' then some 4
  else if c = 'U' then some 8
  else none

/-- Puts text before what was read. -/
def prepend (read : List Char) : Option (List Char × List Glyph) → Option (List Char × List Glyph)
  | some (more, after) => some (read ++ more, after)
  | none => none

/-- The text of a scalar after its opening quote, and what follows its closing quote. Absent when
the scalar does not end, or holds a bad escape. -/
def read (single : Bool) : List Glyph → Option (List Char × List Glyph)
  | [] => none
  | g :: rest =>
      if g.isEnd || atDocumentMark (g :: rest) then none
      else if g.isGap then
        prepend (foldGap false (g :: rest.takeWhile Glyph.isGap))
          (read single (rest.dropWhile Glyph.isGap))
      else if single then
        if g.char ≠ '\x27' then prepend [g.char] (read single rest)
        else
          match rest with
          | next :: after =>
              if next.char = '\x27' then prepend [next.char] (read single after)
              else some ([], next :: after)
          | [] => some ([], [])
      else if g.char = '\x22' then some ([], rest)
      else if g.char ≠ '\\' then prepend [g.char] (read single rest)
      else
        match rest with
        | [] => none
        | letter :: after =>
            if letter.isBreak then
              prepend (foldGap true (after.takeWhile Glyph.isGap))
                (read single (after.dropWhile Glyph.isGap))
            else
              match codeLength? letter.char with
              | some count =>
                  match Text.hexChar? count (chars (after.take count)) with
                  | some c => prepend [c] (read single (after.drop count))
                  | none => none
              | none =>
                  match escaped? letter.char with
                  | some c => prepend [c] (read single after)
                  | none => none
termination_by text => text.length
decreasing_by
  all_goals simp only [List.length_cons, List.length_drop]
  · have := length_dropWhile_le Glyph.isGap rest
    omega
  · omega
  · omega
  · omega
  · have := length_dropWhile_le Glyph.isGap after
    omega
  · omega
  · omega

end DataQuality.Yaml.Quoted

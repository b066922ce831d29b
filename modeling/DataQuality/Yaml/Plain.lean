import DataQuality.Yaml.Glyph

/-!
# Plain scalars

A scalar without quotes is a sequence of words with gaps between them. It ends before a colon that
ends a word, before a comment, and before a line that is indented too little; inside brackets also
before their indicators.
-/

namespace DataQuality.Yaml.Plain

/-- Whether a colon before this glyph is refused inside brackets. -/
def refusesColon (g : Glyph) : Bool :=
  g.isFlowIndicator || g.char == '?'

/-- The next word, possibly empty, and the text after it. Absent when the word holds a colon that
is refused. -/
def readWord (inFlow : Bool) : List Glyph → Option (List Char × List Glyph)
  | [] => some ([], [])
  | g :: rest =>
      let colon := g.char == ':'
      if g.endsWord then some ([], g :: rest)
      else if inFlow && colon && startsWith refusesColon rest then none
      else if (colon && startsWith Glyph.endsWord rest) || (inFlow && g.isFlowIndicator) then
        some ([], g :: rest)
      else
        match readWord inFlow rest with
        | some (word, after) => some (g.char :: word, after)
        | none => none

theorem length_le_of_readWord {inFlow : Bool} {text after : List Glyph} {word : List Char}
    (h : readWord inFlow text = some (word, after)) : after.length ≤ text.length := by
  induction text generalizing word with
  | nil => simp_all [readWord]
  | cons g rest ih =>
      simp only [readWord] at h
      split at h
      · simp_all
      · split at h
        · simp at h
        · split at h
          · simp_all
          · split at h
            next w a hrec =>
              simp only [Option.some.injEq, Prod.mk.injEq] at h
              have := ih (h.2 ▸ hrec)
              simp only [List.length_cons]
              omega
            next => simp at h

/-- A plain scalar as far as it has been read. -/
structure Reading where
  text : List Char
  /-- Whether a line break comes between the last word and the text after it. -/
  endsAfterBreak : Bool
  after : List Glyph

/-- Whether a tab stands in the indentation of a line within the gap. -/
def hasTabInIndentation (indent : Int) (gap : List Glyph) : Bool :=
  (gap.dropWhile fun g => !g.isBreak).any fun g => g.char == '\t' && g.column < indent

/-- The rest of a plain scalar after a gap, which is left out when no word follows it. Lines have
to be indented by at least `indent` columns. -/
def readFrom (inFlow : Bool) (indent : Int) (gap : List Char) (afterBreak : Bool)
    (text : List Glyph) : Option Reading :=
  if atDocumentMark text || startsWithChar '#' text then some ⟨[], afterBreak, text⟩
  else
    match _h : readWord inFlow text with
    | none => none
    | some (word, after) =>
        let read := if word.isEmpty then [] else gap ++ word
        match after with
        | [] => some ⟨read, afterBreak && word.isEmpty, []⟩
        | g :: rest =>
            if g.isGap then
              let next := g :: rest.takeWhile Glyph.isGap
              let line := rest.dropWhile Glyph.isGap
              if hasTabInIndentation indent next then none
              else
                let breaks := next.any Glyph.isBreak
                if !inFlow && startsWith (fun g => g.column < indent) line then
                  some ⟨read, breaks, line⟩
                else
                  match readFrom inFlow indent (foldGap false next) breaks line with
                  | none => none
                  | some more => some { more with text := read ++ more.text }
            else some ⟨read, afterBreak && word.isEmpty, g :: rest⟩
termination_by text.length
decreasing_by
  have hle := length_le_of_readWord _h
  have := length_dropWhile_le Glyph.isGap rest
  simp only [List.length_cons] at hle
  omega

/-- A plain scalar that begins here. -/
def read (inFlow : Bool) (indent : Int) (text : List Glyph) : Option Reading :=
  readFrom inFlow indent [] false text

end DataQuality.Yaml.Plain

import DataQuality.Yaml.Quoted
import DataQuality.Yaml.Token

/-!
# Anchors, tags and directives

The properties of a node are an anchor, which names it, and a tag, which gives its type. A tag is
written out in full or as a shorthand, whose handle a directive may declare.
-/

namespace DataQuality.Yaml

/-- A name of letters, digits and dashes, possibly empty. -/
def nameOf (text : List Glyph) : String :=
  String.ofList (chars (text.takeWhile Glyph.isNameChar))

def afterName (text : List Glyph) : List Glyph :=
  text.dropWhile Glyph.isNameChar

/-- The name of an anchor after its mark, and the text after it. -/
def readAnchor (text : List Glyph) : Option (String × List Glyph) :=
  let after := afterName text
  let closes (g : Glyph) : Bool :=
    g.endsWord || ['?', ':', ',', ']', '\x7d', '%', '@', '\x60'].contains g.char
  if (nameOf text).isEmpty || !startsWith closes after then none
  else some (nameOf text, after)

namespace Tag

/-- The signs that may stand in the text of a tag besides letters and digits. -/
def tagSigns : List Char :=
  [';', '/', '?', ':', '@', '&', '=', '+', '$', '.', '%', '!', '~', '*', '\x27', '(', ')']

/-- Whether a character may stand in the text of a tag. A tag written out in full may also hold
some of the indicators of lists. -/
def isTagChar (full : Bool) (g : Glyph) : Bool :=
  g.isNameChar || tagSigns.contains g.char || (full && [',', '[', ']'].contains g.char)

/-- An octet written as a percent sign and two hexadecimal digits. -/
def readOctet (text : List Glyph) : Option (Nat × List Glyph) :=
  match text with
  | mark :: high :: low :: after =>
      if mark.char = '%' then
        (Text.hexNumber? 0 [high.char, low.char]).map fun n => (n, after)
      else none
  | _ => none

/-- Further octets of a character after those of value `n`. -/
def readFurtherOctets (n : Nat) : Nat → List Glyph → Option (Char × List Glyph)
  | 0, text => some (Char.ofNat n, text)
  | count + 1, text =>
      match readOctet text with
      | some (octet, after) =>
          if octet / 64 = 2 then readFurtherOctets (64 * n + octet % 64) count after else none
      | none => none

/-- A character written as octets. -/
def readEscape (text : List Glyph) : Option (Char × List Glyph) :=
  match readOctet text with
  | some (octet, after) =>
      if octet < 0x80 then some (Char.ofNat octet, after)
      else if octet / 32 = 6 then readFurtherOctets (octet % 32) 1 after
      else if octet / 16 = 14 then readFurtherOctets (octet % 16) 2 after
      else if octet / 8 = 30 then readFurtherOctets (octet % 8) 3 after
      else none
  | none => none

/-- The text of a tag and what follows it; `fuel` bounds the number of characters. -/
def readText (full : Bool) : Nat → List Glyph → Option (List Char × List Glyph)
  | 0, text => some ([], text)
  | fuel + 1, text =>
      match text with
      | [] => some ([], [])
      | g :: rest =>
          if !isTagChar full g then some ([], g :: rest)
          else if g.char = '%' then
            match readEscape (g :: rest) with
            | some (c, after) => Quoted.prepend [c] (readText full fuel after)
            | none => none
          else Quoted.prepend [g.char] (readText full fuel rest)

/-- The text of a tag, which may not be empty. -/
def readSomeText (full : Bool) (text : List Glyph) : Option (String × List Glyph) :=
  match readText full text.length text with
  | some ([], _) => none
  | some (cs, after) => some (String.ofList cs, after)
  | none => none

/-- A tag after its mark. In brackets a comma may follow it, elsewhere a gap has to. -/
def read (inFlow : Bool) (text : List Glyph) : Option (Token × List Glyph) := do
  let (token, after) ←
    if startsWithChar '<' text then do
      let (full, after) ← readSomeText true (text.drop 1)
      if startsWithChar '>' after then some (Token.tag "" full, after.drop 1) else none
    else if startsWithChar '!' (afterName text) then do
      let (suffix, after) ← readSomeText false ((afterName text).drop 1)
      some (Token.tag ("!" ++ nameOf text ++ "!") suffix, after)
    else do
      let (suffix, after) ← readText false text.length (afterName text)
      let suffix := nameOf text ++ String.ofList suffix
      some (if suffix.isEmpty then Token.tag "" "!" else Token.tag "!" suffix, after)
  if startsWith Glyph.endsWord after || (inFlow && startsWithChar ',' after) then
    some (token, after)
  else none

end Tag

namespace Directive

/-- A number of at most nine digits. -/
def readNumber (text : List Glyph) : Option (Nat × List Glyph) :=
  let digits := text.takeWhile fun g => g.char.isDigit
  if digits.isEmpty || 9 < digits.length then none
  else
    some ((chars digits).foldl (fun n c => 10 * n + (c.toNat - 48)) 0,
      text.dropWhile fun g => g.char.isDigit)

/-- The numbers of a version, with a point between them. -/
def readVersion (text : List Glyph) : Option (Token × List Glyph) := do
  let (major, text) ← readNumber text
  if !startsWithChar '.' text then none
  let (minor, text) ← readNumber (text.drop 1)
  return (.version major minor, text)

/-- A handle of tags and what it stands for. -/
def readShorthand (text : List Glyph) : Option (Token × List Glyph) := do
  if !startsWithChar '!' text then none
  let name := nameOf (text.drop 1)
  let text := afterName (text.drop 1)
  let named := startsWithChar '!' text
  if !named && !name.isEmpty then none
  let text := if named then text.drop 1 else text
  if !startsWith Glyph.isBlank text then none
  let (expansion, text) ← Tag.readSomeText true (text.dropWhile Glyph.isBlank)
  if !startsWith Glyph.endsWord text then none
  return (.tagShorthand ("!" ++ name ++ (if named then "!" else "")) expansion, text)

/-- A directive after its mark. -/
def read (text : List Glyph) : Option (Token × List Glyph) := do
  let name := nameOf text
  let after := afterName text
  if name.isEmpty || !startsWith Glyph.endsWord after then none
  let after := after.dropWhile Glyph.isBlank
  let (token, after) ←
    if name = "YAML" then readVersion after
    else if name = "TAG" then readShorthand after
    else none
  return (token, ← endLine? after)

end Directive

end DataQuality.Yaml

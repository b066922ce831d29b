import DataQuality.Text.Normal
import DataQuality.Url.Address
import DataQuality.Url.DomainTable
import DataQuality.Url.Punycode

/-!
# Domain names

Domain names as an address carries them: in lower case and in ASCII. Characters beyond ASCII are
first replaced by those that stand for them, and the labels that hold any are checked before they
get their ASCII form. A label that comes in its ASCII form has to stand for one that needs it.
-/

namespace DataQuality.Url

/-- The ASCII characters that no domain name may hold. -/
def isForbidden (c : Char) : Bool :=
  c.toNat < 33 || c.toNat == 127 ||
    ['#', '%', '/', ':', '<', '>', '?', '@', '[', '\\', ']', '^', '|'].contains c

def isAscii (c : Char) : Bool := c.toNat < 128

def asciiFormMark : List Char := ['x', 'n', '-', '-']

/-- The characters that a character becomes; absent when it is refused. -/
def mapDomainChar (c : Char) : Option (List Char) :=
  if isAscii c then some [c.toLower]
  else
    match domainMapping.find? c.toNat with
    | none => some [c]
    | some run =>
        if run.note = ['!'] then some []
        else if run.note = ['#'] then none
        else
          let offset := c.toNat - run.first
          run.codes?.map fun codes =>
            (codes.dropLast ++ codes.getLast?.toList.map (· + offset)).map Char.ofNat

/-- The normal form of a domain name: mapped character by character, then composed. -/
def normalDomain? (cs : List Char) : Option (List Char) :=
  (cs.mapM mapDomainChar).map fun parts => Text.normal parts.flatten

/-- The letter that a table gives for a character. -/
def noteIn (table : Text.CodeTable) (c : Char) : Option Char :=
  (table.find? c.toNat).bind fun run => run.note[1]?

/-- Whether a joiner fits where it is: behind a mark that silences a vowel or, if the joiner keeps
letters apart, between letters that would join. `before` is the text before it, in reverse
order. -/
def joinerFits (c : Char) (before after : List Char) : Bool :=
  let joins (allowed : List Char) (cs : List Char) : Bool :=
    let next := cs.dropWhile fun c => noteIn joinings c == some 'T'
    (next.head?.bind (noteIn joinings)).any allowed.contains
  (before.head?.any fun c => Text.combiningClass c.toNat == 9) ||
    (c.toNat == 0x200C && joins ['L', 'D'] before && joins ['R', 'D'] after)

/-- Whether all joiners of a label fit where they are. -/
def joinersFit (before : List Char) : List Char → Bool
  | [] => true
  | c :: rest =>
      let isJoiner := c.toNat == 0x200C || c.toNat == 0x200D
      (!isJoiner || joinerFits c before rest) && joinersFit (c :: before) rest

/-- Whether a label in normal form may stand in a domain name. -/
def isLabel (label : List Char) : Bool :=
  label.all (fun c => !(isAscii c && isForbidden c)) &&
    !(label.head?.any fun c => (marks.find? c.toNat).isSome) &&
    joinersFit [] label

/-- The direction of a character: `L` unless a table says otherwise. -/
def direction (c : Char) : Char := (noteIn directions c).getD 'L'

/-- Whether a label may stand in a domain name with characters written from right to left. It is
written in one direction, which its first character gives, begins and ends accordingly, and has
numbers of one kind if it is written from right to left. -/
def isDirected (label : List Char) : Bool :=
  let kinds := label.map direction
  let body := (kinds.reverse.dropWhile (· == 'N')).reverse
  match kinds with
  | [] => true
  | 'L' :: _ =>
      kinds.all (['L', 'E', 'O', 'N'].contains ·) && (body.getLast?.any (['L', 'E'].contains ·))
  | 'R' :: _ =>
      kinds.all (['R', 'A', 'E', 'O', 'N'].contains ·) &&
        (body.getLast?.any (['R', 'A', 'E'].contains ·)) &&
        !(kinds.contains 'A' && kinds.contains 'E')
  | _ => false

def isRightToLeft (label : List Char) : Bool :=
  label.any fun c => ['R', 'A'].contains (direction c)

/-- A label in the form that an address carries, and what it stands for. -/
structure Label where
  ascii : List Char
  meaning : List Char

def Label.of? (label : List Char) : Option Label :=
  if asciiFormMark.isPrefixOf label then do
    let meaning ← Punycode.decode? (label.drop 4)
    if label.all isAscii && !meaning.all isAscii && normalDomain? meaning == some meaning &&
        isLabel meaning then
      some ⟨label, meaning⟩
    else none
  else if !isLabel label then none
  else if label.all isAscii then some ⟨label, label⟩
  else some ⟨asciiFormMark ++ Punycode.encode label, label⟩

/-- Labels with dots between them. -/
def joinLabels : List (List Char) → List Char
  | [] => []
  | [label] => label
  | label :: rest => label ++ '.' :: joinLabels rest

/-- Whether a domain name is in ASCII and no label of it is in ASCII form. -/
def isPlainDomain (cs : List Char) : Bool :=
  cs.all isAscii && !(splitAt '.' (cs.map Char.toLower)).any asciiFormMark.isPrefixOf

/-- The ASCII form of any domain name, if it has one. -/
def internationalToAscii? (cs : List Char) : Option (List Char) := do
  let name ← normalDomain? cs
  let labels ← (splitAt '.' name).mapM Label.of?
  let rightToLeft := labels.any fun label => isRightToLeft label.meaning
  if rightToLeft && !labels.all fun label => isDirected label.meaning then none
  else some (joinLabels (labels.map Label.ascii))

/-- The ASCII form of a domain name, if it has one. Most names only need to be in lower case. -/
def domainToAscii? (cs : List Char) : Option (List Char) :=
  if isPlainDomain cs then
    let lower := cs.map Char.toLower
    if lower.any isForbidden then none else some lower
  else internationalToAscii? cs

end DataQuality.Url

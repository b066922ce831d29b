import DataQuality.Text.NormalTable

/-!
# Normal forms of text

Texts that look alike can differ in whether letters and their marks are single characters. The
normal form takes every character apart, orders the marks on each letter by their class, and puts
together what can be put together again.
-/

namespace DataQuality.Text

/-- The number of syllables that share an initial, and that share an initial and a vowel. -/
def hangulCounts : Nat × Nat := (588, 28)

/-- The first precomposed syllable, and how many there are. -/
def hangulSyllables : Nat × Nat := (0xAC00, 11172)

/-- The parts of a precomposed syllable: an initial, a vowel and possibly a final. -/
def hangulParts? (n : Nat) : Option (List Nat) :=
  let i := n - hangulSyllables.1
  if n < hangulSyllables.1 ∨ hangulSyllables.2 ≤ i then none
  else
    let initial := 0x1100 + i / hangulCounts.1
    let vowel := 0x1161 + i % hangulCounts.1 / hangulCounts.2
    let final := i % hangulCounts.2
    some (if final = 0 then [initial, vowel] else [initial, vowel, 0x11A7 + final])

/-- The syllable that two of its parts make. -/
def hangulSyllable? (a b : Nat) : Option Nat :=
  let (perInitial, perVowel) := hangulCounts
  let (first, count) := hangulSyllables
  if 0x1100 ≤ a ∧ a < 0x1113 ∧ 0x1161 ≤ b ∧ b < 0x1176 then
    some (first + (a - 0x1100) * perInitial + (b - 0x1161) * perVowel)
  else if first ≤ a ∧ a < first + count ∧ (a - first) % perVowel = 0 ∧ 0x11A7 < b ∧ b < 0x11C3 then
    some (a + (b - 0x11A7))
  else none

/-- The first code point that has parts. -/
def firstComposed : Nat := 0xC0

/-- The first mark. No code point before it has a class, or makes another one with what is before
it. -/
def firstMark : Nat := 0x300

/-- The parts of a code point, if it has any. In a run, a single part counts up. -/
def parts? (n : Nat) : Option (List Nat) :=
  if n < firstComposed then none
  else
    hangulParts? n <|>
      (decompositions.find? n).bind fun run =>
        run.codes?.map fun codes =>
          match codes with
          | [single] => [single + (n - run.first)]
          | codes => codes

/-- The parts of a code point, taken apart `fuel` times at most. No character has parts that go
deeper than four levels. -/
def decompose : Nat → Nat → List Nat
  | 0, n => [n]
  | fuel + 1, n =>
      match parts? n with
      | some parts => parts.flatMap (decompose fuel)
      | none => [n]

/-- The class by which a mark is ordered among those on the same letter; zero for letters. -/
def combiningClass (n : Nat) : Nat :=
  if n < firstMark then 0
  else
    match combiningClasses.find? n with
    | some run => (run.codes?.bind List.head?).getD 0
    | none => 0

/-- Inserts a mark behind those of its class or a lower one. -/
def insertMark (mark : Nat × Nat) : List (Nat × Nat) → List (Nat × Nat)
  | [] => [mark]
  | other :: rest =>
      if mark.2 < other.2 then mark :: other :: rest else other :: insertMark mark rest

/-- Orders the marks on each letter. The code points come with their classes; `marks` are those
since the last letter. -/
def orderMarks (marks : List (Nat × Nat)) : List (Nat × Nat) → List (Nat × Nat)
  | [] => marks
  | (n, 0) :: rest => marks ++ (n, 0) :: orderMarks [] rest
  | mark :: rest => orderMarks (insertMark mark marks) rest

/-- Two code points that make one, with the one they make. -/
def compositions : List ((Nat × Nat) × Nat) :=
  decompositions.toList.filterMap fun run =>
    if run.note.getLast? = some '!' then none
    else
      match run.codes? with
      | some [a, b] => some ((a, b), run.first)
      | _ => none

/-- The code point that two make, if there is one. -/
def compose? (a b : Nat) : Option Nat :=
  if b < firstMark then none
  else
    match hangulSyllable? a b with
    | some n => some n
    | none => (compositions.find? fun entry => entry.1 == (a, b)).map (·.2)

/-- Puts code points together. `letter` is the last letter, and `marks` are what stands behind it,
in reverse order: a mark reaches the letter unless one of its own class or a higher one is between
them. -/
def composeFrom (letter : Nat) (marks : List (Nat × Nat)) : List (Nat × Nat) → List Nat
  | [] => letter :: (marks.reverse.map (·.1))
  | (n, k) :: rest =>
      let reaches :=
        match marks with
        | [] => true
        | (_, last) :: _ => last < k
      match if reaches then compose? letter n else none with
      | some whole => composeFrom whole marks rest
      | none =>
          if k = 0 then letter :: (marks.reverse.map (·.1)) ++ composeFrom n [] rest
          else composeFrom letter ((n, k) :: marks) rest

/-- Puts code points together, from the first letter on. -/
def compose : List (Nat × Nat) → List Nat
  | [] => []
  | (n, 0) :: rest => composeFrom n [] rest
  | (n, _) :: rest => n :: compose rest

def normal (cs : List Char) : List Char :=
  let parts := cs.flatMap fun c => decompose 4 c.toNat
  (compose (orderMarks [] (parts.map fun n => (n, combiningClass n)))).map Char.ofNat

end DataQuality.Text

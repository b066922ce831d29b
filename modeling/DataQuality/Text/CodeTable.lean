/-!
# Tables of code points

Properties of characters are given as lines of words, in increasing order. A word names a code point
(`AD`), a run of them (`300-314`) or every second one of a run (`100:12E`), in hexadecimal, and ends
with a note on what the table says of them.
-/

namespace DataQuality.Text

/-- A run of code points with the note of a table. -/
structure CodeRun where
  first : Nat
  last : Nat
  /-- Whether only every second code point belongs to the run. -/
  alternate : Bool
  note : List Char
  deriving Repr, Inhabited

namespace CodeRun

/-- Whether a character is a digit of a code point. -/
def isDigit (c : Char) : Bool :=
  c.isDigit || ('A' ≤ c && c ≤ 'F')

/-- The code point at the beginning of a text and the rest of the text. -/
def readCode (cs : List Char) : Nat × List Char :=
  let value (c : Char) : Nat := if c.isDigit then c.toNat - 48 else c.toNat - 55
  ((cs.takeWhile isDigit).foldl (fun n c => 16 * n + value c) 0, cs.dropWhile isDigit)

def ofWord (word : List Char) : CodeRun :=
  let (first, rest) := readCode word
  match rest with
  | '-' :: rest =>
      let (last, note) := readCode rest
      ⟨first, last, false, note⟩
  | ':' :: rest =>
      let (last, note) := readCode rest
      ⟨first, last, true, note⟩
  | note => ⟨first, first, false, note⟩

/-- Whether a code point between the ends belongs to the run. -/
def admits (run : CodeRun) (n : Nat) : Bool :=
  !run.alternate || (n - run.first) % 2 == 0

/-- The code points after the equals sign of a note, with points between them. -/
def readCodes : Nat → List Char → List Nat
  | 0, _ => []
  | fuel + 1, cs =>
      let (n, rest) := readCode cs
      match rest with
      | '.' :: rest => n :: readCodes fuel rest
      | _ => [n]

/-- The code points that the note gives; absent when it gives none. -/
def codes? (run : CodeRun) : Option (List Nat) :=
  match run.note with
  | '=' :: rest => some (readCodes rest.length rest)
  | _ => none

end CodeRun

abbrev CodeTable := Array CodeRun

namespace CodeTable

def words : List Char → List (List Char)
  | [] => [[]]
  | c :: rest =>
      match c, words rest with
      | ' ', found => [] :: found
      | c, word :: found => (c :: word) :: found
      | c, [] => [[c]]

def ofLines (lines : List String) : CodeTable :=
  (lines.flatMap fun line => (words line.toList).map CodeRun.ofWord).toArray

/-- Binary search for a code point among `width` runs from index `low` on. -/
def search (table : CodeTable) (n low : Nat) : Nat → Option CodeRun
  | 0 => none
  | width + 1 =>
      let half := (width + 1) / 2
      match table[low + half]? with
      | none => search table n low half
      | some run =>
          if n < run.first then search table n low half
          else if n ≤ run.last then if run.admits n then some run else none
          else search table n (low + half + 1) (width - half)
  termination_by width => width
  decreasing_by all_goals omega

def find? (table : CodeTable) (n : Nat) : Option CodeRun :=
  table.search n 0 table.size

end CodeTable

end DataQuality.Text

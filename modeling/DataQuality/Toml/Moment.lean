import DataQuality.Decimal.Reader

/-!
# Dates and times

A moment is a date, a time of day, or both with an optional distance from universal time. It is
read in the usual spelling and written in one normal form: fractions of a second end with a digit
that is not zero, and no distance at all has a plus sign.
-/

namespace DataQuality.Toml

/-- A day of the calendar. -/
structure Date where
  year : Nat
  month : Nat
  day : Nat
  deriving DecidableEq, Repr

/-- A time of day, with nanoseconds. -/
structure TimeOfDay where
  hour : Nat
  minute : Nat
  second : Nat
  nanosecond : Nat
  deriving DecidableEq, Repr

/-- A distance from universal time. -/
inductive Offset where
  | universal
  | minutes (count : Int)
  deriving DecidableEq, Repr

inductive Moment where
  | date (date : Date)
  | time (time : TimeOfDay)
  | dateTime (date : Date) (time : TimeOfDay) (offset : Option Offset)
  deriving DecidableEq, Repr

namespace Date

def daysOfMonth (year month : Nat) : Nat :=
  if month = 2 then
    if year % 4 = 0 ∧ (year % 100 ≠ 0 ∨ year % 400 = 0) then 29 else 28
  else if [4, 6, 9, 11].contains month then 30
  else 31

end Date

namespace Moment

/-- A number with leading zeros up to a width. -/
def padded (width n : Nat) : List Char :=
  let digits := (toString n).toList
  List.replicate (width - digits.length) '0' ++ digits

def renderDate (d : Date) : List Char :=
  padded 4 d.year ++ '-' :: padded 2 d.month ++ '-' :: padded 2 d.day

def renderTime (t : TimeOfDay) : List Char :=
  let fraction := (padded 9 t.nanosecond).reverse.dropWhile (· == '0') |>.reverse
  padded 2 t.hour ++ ':' :: padded 2 t.minute ++ ':' :: padded 2 t.second ++
    (if fraction.isEmpty then [] else '.' :: fraction)

/-- The text of a distance from universal time. -/
def renderOffset : Offset → List Char
  | .universal => ['Z']
  | .minutes count =>
      let n := count.natAbs
      (if count < 0 then '-' else '+') :: padded 2 (n / 60) ++ ':' :: padded 2 (n % 60)

def render : Moment → String
  | .date d => String.ofList (renderDate d)
  | .time t => String.ofList (renderTime t)
  | .dateTime d t offset =>
      String.ofList
        (renderDate d ++ 'T' :: renderTime t ++ (offset.map renderOffset).getD [])

/-- A number of exactly `width` digits between two bounds, both included. -/
def readNumber (width least greatest : Nat) (cs : List Char) : Option (Nat × List Char) :=
  let digits := cs.take width
  let n := Decimal.digitsValue 0 digits
  if digits.length = width ∧ digits.all Char.isDigit ∧ least ≤ n ∧ n ≤ greatest then
    some (n, cs.drop width)
  else none

/-- The text after a character that has to be there. -/
def expect (c : Char) : List Char → Option (List Char)
  | d :: rest => if d = c then some rest else none
  | [] => none

/-- Whether the text begins as a date does: with a year and a hyphen. -/
def startsDate (cs : List Char) : Bool :=
  (readNumber 4 0 9999 cs).any fun reading => reading.2.head? == some '-'

/-- Whether the text begins as a time of day does: with an hour and a colon. -/
def startsTime (cs : List Char) : Bool :=
  (readNumber 2 0 23 cs).any fun reading => reading.2.head? == some ':'

def readDate (cs : List Char) : Option (Date × List Char) := do
  let (year, cs) ← readNumber 4 0 9999 cs
  let cs ← expect '-' cs
  let (month, cs) ← readNumber 2 1 12 cs
  let cs ← expect '-' cs
  let (day, cs) ← readNumber 2 1 (Date.daysOfMonth year month) cs
  return (⟨year, month, day⟩, cs)

/-- The nanoseconds of a fraction of a second; digits beyond the ninth are dropped. -/
def readFraction (cs : List Char) : Option (Nat × List Char) :=
  match cs with
  | '.' :: rest =>
      let digits := rest.takeWhile Char.isDigit
      if digits.isEmpty then none
      else
        let kept := digits.take 9
        some (Decimal.digitsValue 0 (kept ++ List.replicate (9 - kept.length) '0'),
          rest.dropWhile Char.isDigit)
  | cs => some (0, cs)

def readTime (cs : List Char) : Option (TimeOfDay × List Char) := do
  let (hour, cs) ← readNumber 2 0 23 cs
  let cs ← expect ':' cs
  let (minute, cs) ← readNumber 2 0 59 cs
  let cs ← expect ':' cs
  let (second, cs) ← readNumber 2 0 60 cs
  let (nanosecond, cs) ← readFraction cs
  return (⟨hour, minute, second, nanosecond⟩, cs)

/-- A distance from universal time, if there is one. -/
def readOffset (cs : List Char) : Option ((Option Offset) × List Char) :=
  match cs with
  | c :: rest =>
      if c = 'Z' ∨ c = 'z' then some (some .universal, rest)
      else if c = '+' ∨ c = '-' then do
        let (hours, rest) ← readNumber 2 0 23 rest
        let rest ← expect ':' rest
        let (minutes, rest) ← readNumber 2 0 59 rest
        let count : Int := 60 * hours + minutes
        return (some (.minutes (if c = '-' then -count else count)), rest)
      else some (none, cs)
  | [] => some (none, [])

/-- A moment that begins with a date. A time follows after a `T` or a space. -/
def readFromDate (cs : List Char) : Option (Moment × List Char) := do
  let (day, cs) ← readDate cs
  match cs with
  | c :: rest =>
      if (c = 'T' ∨ c = 't' ∨ c = ' ') ∧ startsTime rest then do
        let (clock, rest) ← readTime rest
        let (offset, rest) ← readOffset rest
        return (.dateTime day clock offset, rest)
      else return (.date day, cs)
  | [] => return (.date day, [])

def readFromTime (cs : List Char) : Option (Moment × List Char) :=
  (readTime cs).map fun reading => (.time reading.1, reading.2)

end Moment

end DataQuality.Toml

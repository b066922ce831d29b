import DataQuality.Document.Datum
import DataQuality.Decimal.Scaled
import DataQuality.Text.Basic

/-!
# Reading JSON text

A text is read into a document whose values stay readable up to the first place where the text
is not JSON. Values that are JSON but cannot be kept are unusable: a number beyond the range of
doubles, a string with half of a surrogate pair, an array or record nested too deeply.
-/

namespace DataQuality.Json

/-- The characters that may stand between the parts of a value. -/
def isSpace (c : Char) : Bool :=
  c == ' ' || c == '\n' || c == '\t' || c == '\r'

/-- The text after any spaces. -/
def skipSpace (cs : List Char) : List Char :=
  cs.dropWhile isSpace

/-- The character that an escape of a single letter stands for. -/
def escaped? (c : Char) : Option Char :=
  if c = '\x22' then some c
  else if c = '\\' then some c
  else if c = '/' then some c
  else if c = 'b' then some (Char.ofNat 8)
  else if c = 'f' then some (Char.ofNat 12)
  else if c = 'n' then some '\n'
  else if c = 'r' then some '\r'
  else if c = 't' then some '\t'
  else none

/-- The code numbers in a string after its opening quote, and the text after its closing quote.
Absent when the string does not end or holds something it may not. -/
def readCodes : List Char → Option (List Nat × List Char)
  | [] => none
  | '\\' :: 'u' :: a :: b :: c :: d :: rest =>
      match Text.hexNumber? 0 [a, b, c, d], readCodes rest with
      | some code, some (codes, after) => some (code :: codes, after)
      | _, _ => none
  | '\\' :: c :: rest =>
      match escaped? c, readCodes rest with
      | some plain, some (codes, after) => some (plain.toNat :: codes, after)
      | _, _ => none
  | c :: rest =>
      if c = '\x22' then some ([], rest)
      else if c = '\\' ∨ c.toNat < 32 then none
      else
        match readCodes rest with
        | some (codes, after) => some (c.toNat :: codes, after)
        | none => none

/-- Joins the halves of surrogate pairs; absent when a half stands alone. -/
def joinSurrogates : List Nat → Option (List Char)
  | [] => some []
  | [code] => if 0xD800 ≤ code ∧ code < 0xE000 then none else some [Char.ofNat code]
  | code :: next :: rest =>
      if 0xD800 ≤ code ∧ code < 0xDC00 then
        if 0xDC00 ≤ next ∧ next < 0xE000 then
          (joinSurrogates rest).map
            (Char.ofNat (0x10000 + 1024 * (code - 0xD800) + (next - 0xDC00)) :: ·)
        else none
      else if 0xDC00 ≤ code ∧ code < 0xE000 then none
      else (joinSurrogates (next :: rest)).map (Char.ofNat code :: ·)

/-- What was read and, unless the text broke off, the text after it. -/
abbrev Reading (α : Type) := α × Option (List Char)

/-- A string after its opening quote. -/
def readString (cs : List Char) : Reading Datum :=
  match readCodes cs with
  | none => (.broken, none)
  | some (codes, rest) =>
      match joinSurrogates codes with
      | some chars => (.text (String.ofList chars), some rest)
      | none => (.unusable, some rest)

/-- A whole number within the range of words is kept as it is, any other as a double. -/
def wholeNumber (negative : Bool) (digits : List Char) : Option Json :=
  let n := Decimal.digitsValue 0 digits
  if negative = false ∧ n < UInt64.size then some (.int n)
  else if negative ∧ 0 < n ∧ Int64.minValue.toInt ≤ -n then some (.int (-n))
  else
    (Decimal.readScaled? digits [] false 0).map fun x => .real (if negative then -x else x)

/-- The datum of a number that may be out of range. -/
def numberDatum : Option Json → Datum
  | some (.int n) => .scalar (.ofInt n)
  | some value => .scalar (.ofValue value)
  | none => .unusable

/-- A number after its sign. -/
def readNumber (negative : Bool) (cs : List Char) : Reading Datum :=
  let digits := cs.takeWhile Char.isDigit
  let rest := cs.dropWhile Char.isDigit
  let sound : Bool :=
    match digits with
    | [] => false
    | ['0'] => true
    | '0' :: _ => false
    | _ => true
  if !sound then (.broken, none)
  else
    let (fraction, hasFraction, rest) :=
      match rest with
      | '.' :: after => (after.takeWhile Char.isDigit, true, after.dropWhile Char.isDigit)
      | _ => ([], false, rest)
    if hasFraction ∧ fraction = [] then (.broken, none)
    else
      let (hasExponent, negativeExponent, rest) :=
        match rest with
        | c :: after =>
            if c = 'e' ∨ c = 'E' then
              let (negativeExponent, after) := Decimal.readSign after
              (true, negativeExponent, after)
            else (false, false, rest)
        | [] => (false, false, rest)
      if hasExponent then
        let power := rest.takeWhile Char.isDigit
        if power = [] then (.broken, none)
        else
          let x := Decimal.readScaled? digits fraction negativeExponent
            (Decimal.digitsValue 0 power)
          (numberDatum (x.map fun x => .real (if negative then -x else x)),
            some (rest.dropWhile Char.isDigit))
      else if hasFraction then
        let x := Decimal.readScaled? digits fraction false 0
        (numberDatum (x.map fun x => .real (if negative then -x else x)), some rest)
      else (numberDatum (wholeNumber negative digits), some rest)

def readWord (word : List Char) (value : Datum) (cs : List Char) : Reading Datum :=
  if word.isPrefixOf cs then (value, some (cs.drop word.length)) else (.broken, none)

/-- Replaces a sound datum that may not be kept. -/
def keepIf (allowed : Bool) (reading : Reading Datum) : Reading Datum :=
  if allowed ∨ reading.2.isNone then reading else (.unusable, reading.2)

mutual

/-- A value, with spaces before it. `depth` is how many levels of arrays and records can still be
kept; `fuel` bounds the number of steps. -/
def readValue (fuel depth : Nat) (cs : List Char) : Reading Datum :=
  match fuel with
  | 0 => (.broken, none)
  | fuel + 1 =>
      match skipSpace cs with
      | [] => (.broken, none)
      | c :: rest =>
          if c = '\x22' then readString rest
          else if c = '-' then readNumber true rest
          else if c.isDigit then readNumber false (c :: rest)
          else if c = 'n' then readWord ['u', 'l', 'l'] (.scalar .null) rest
          else if c = 't' then readWord ['r', 'u', 'e'] (.scalar (.ofValue (.bool true))) rest
          else if c = 'f' then
            readWord ['a', 'l', 's', 'e'] (.scalar (.ofValue (.bool false))) rest
          else if c = '[' then
            let (items, after) := readItems fuel (depth - 1) true rest
            keepIf (0 < depth) (.jsonList items, after)
          else if c = '\x7b' then
            let (members, after) := readMembers fuel (depth - 1) true rest
            keepIf (0 < depth) (.jsonRecord members, after)
          else (.broken, none)

/-- The items of an array after its bracket or, later on, after an item. -/
def readItems (fuel depth : Nat) (first : Bool) (cs : List Char) : Reading (List Datum) :=
  match fuel with
  | 0 => ([.broken], none)
  | fuel + 1 =>
      match skipSpace cs with
      | [] => ([.broken], none)
      | c :: rest =>
          if c = ']' then ([], some rest)
          else if first ∨ c = ',' then
            match readValue fuel depth (if first then c :: rest else rest) with
            | (item, none) => ([item, .broken], none)
            | (item, some after) =>
                let (items, after) := readItems fuel depth false after
                (item :: items, after)
          else ([.broken], none)

/-- The members of a record after its brace or, later on, after a member. -/
def readMembers (fuel depth : Nat) (first : Bool) (cs : List Char) :
    Reading (List (Datum × Datum)) :=
  match fuel with
  | 0 => ([(.broken, .broken)], none)
  | fuel + 1 =>
      match skipSpace cs with
      | [] => ([(.broken, .broken)], none)
      | c :: rest =>
          if c = '\x7d' then ([], some rest)
          else if first ∨ c = ',' then
            match if first then c :: rest else skipSpace rest with
            | '\x22' :: keyText =>
                match readString keyText with
                | (key, none) => ([(key, .broken)], none)
                | (key, some afterKey) =>
                    match skipSpace afterKey with
                    | ':' :: afterColon =>
                        match readValue fuel depth afterColon with
                        | (value, none) => ([(key, value), (.broken, .broken)], none)
                        | (value, some after) =>
                            let (members, after) := readMembers fuel depth false after
                            ((key, value) :: members, after)
                    | _ => ([(key, .broken)], none)
            | _ => ([(.broken, .broken)], none)
          else ([(.broken, .broken)], none)

end

/-- How many levels of arrays and records are kept. -/
def depthLimit : Nat := 127

def readDocument (s : String) : Document :=
  let cs := s.toList
  match readValue (2 * cs.length + 2) depthLimit cs with
  | (root, some rest) => ⟨root, (skipSpace rest).isEmpty⟩
  | (root, none) => ⟨root, false⟩

/-- The value that a JSON text stands for. -/
def read? (s : String) : Option Json :=
  let document := readDocument s
  if document.complete then document.root.value? else none

end DataQuality.Json

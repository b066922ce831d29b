import DataQuality.Decimal.Reader

/-!
# Numbers

Whole numbers are words of sixty-four bits with a sign, in base ten or, after a mark, sixteen,
eight or two. A number with a point or an exponent is the nearest double; too large a positive
number is refused. Underscores may stand between digits, and no number begins with a zero too many.
-/

namespace DataQuality.Toml.Number

/-- Digits with underscores between them, without the underscores, and the text after them.
Absent when an underscore is not between digits. -/
def readMore (isDigit : Char → Bool) : List Char → Option (List Char × List Char)
  | [] => some ([], [])
  | ['_'] => none
  | '_' :: c :: rest =>
      if isDigit c then
        match readMore isDigit rest with
        | some (digits, after) => some (c :: digits, after)
        | none => none
      else none
  | c :: rest =>
      if isDigit c then
        match readMore isDigit rest with
        | some (digits, after) => some (c :: digits, after)
        | none => none
      else some ([], c :: rest)

/-- One digit or more, with underscores between them. -/
def readDigits (isDigit : Char → Bool) (cs : List Char) : Option (List Char × List Char) :=
  match cs with
  | c :: _ => if isDigit c then readMore isDigit cs else none
  | [] => none

/-- The digits before the point: a zero alone, or digits that do not begin with a zero. -/
def readWhole (cs : List Char) : Option (List Char × List Char) :=
  match cs with
  | '0' :: rest => some (['0'], rest)
  | cs => readDigits Char.isDigit cs

def valueIn (base : Nat) (digits : List Char) : Nat :=
  digits.foldl
    (fun n c =>
      base * n + (if c.isDigit then c.toNat - 48 else c.toLower.toNat - 87))
    0

def isDigitIn (base : Nat) (c : Char) : Bool :=
  if c.isDigit then c.toNat - 48 < base
  else base == 16 && 'a' ≤ c.toLower && c.toLower ≤ 'f'

def readMarked (base : Nat) (cs : List Char) : Option (Int × List Char) := do
  let (digits, rest) ← readDigits (isDigitIn base) cs
  let n := valueIn base digits
  if n ≤ Int64.maxValue.toInt then some ((n : Int), rest) else none

def readInt (cs : List Char) : Option (Int × List Char) :=
  match cs with
  | '0' :: 'x' :: rest => readMarked 16 rest
  | '0' :: 'o' :: rest => readMarked 8 rest
  | '0' :: 'b' :: rest => readMarked 2 rest
  | cs => do
      let (negative, cs) := Decimal.readSign cs
      let (digits, rest) ← readWhole cs
      let n := Decimal.digitsValue 0 digits
      if negative then
        if Int64.minValue.toInt ≤ -n then some (-(n : Int), rest) else none
      else if n ≤ Int64.maxValue.toInt then some ((n : Int), rest)
      else none

/-- An exponent after its mark. -/
def readExponent (cs : List Char) : Option (Int × List Char) := do
  let (negative, cs) := Decimal.readSign cs
  let (digits, rest) ← readDigits Char.isDigit cs
  let n : Int := Decimal.digitsValue 0 digits
  return (if negative then -n else n, rest)

/-- Whether a number with these digits before the rest has a point or an exponent. -/
def hasPointOrExponent (rest : List Char) : Bool :=
  rest.head?.any fun c => c == '.' || c == 'e' || c == 'E'

/-- A number with a point or an exponent. -/
def readReal (cs : List Char) : Option (Float × List Char) := do
  let (negative, cs) := Decimal.readSign cs
  let (whole, cs) ← readWhole cs
  let (fraction, cs) ←
    match cs with
    | '.' :: rest => readDigits Char.isDigit rest
    | cs => some ([], cs)
  let (exponent, cs) ←
    match cs with
    | c :: rest => if c = 'e' ∨ c = 'E' then readExponent rest else some (0, cs)
    | [] => some (0, cs)
  let x := Decimal.roundDecimal negative (Decimal.digitsValue 0 (whole ++ fraction))
    (exponent - fraction.length)
  if negative ∨ Decimal.isFinite x then some (x, cs) else none

/-- The words for infinity and for what is not a number. -/
def readWord (cs : List Char) : Option (Float × List Char) :=
  let (negative, cs) := Decimal.readSign cs
  match cs with
  | 'i' :: 'n' :: 'f' :: rest => (Decimal.wordValue? negative "inf").map fun x => (x, rest)
  | 'n' :: 'a' :: 'n' :: rest => (Decimal.wordValue? negative "nan").map fun x => (x, rest)
  | _ => none

end DataQuality.Toml.Number

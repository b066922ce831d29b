import DataQuality.Decimal.Binary64

/-!
# Reading decimal numbers

The text of a number as people type it into a parameter: an optional sign, then digits with an
optional point and an optional exponent, or one of the words for infinity and not-a-number in
any case. The double nearest to the number is the result, so a number too large gives infinity.
-/

namespace DataQuality.Decimal

def digitValue (c : Char) : Nat := c.toNat - 48

def digitsValue (n : Nat) (cs : List Char) : Nat :=
  cs.foldl (fun n c => 10 * n + digitValue c) n

/-- A sign, if there is one, and the characters after it. -/
def readSign : List Char → Bool × List Char
  | '-' :: rest => (true, rest)
  | '+' :: rest => (false, rest)
  | cs => (false, cs)

/-- A nonempty sequence of digits and nothing else, as a number. -/
def digitsOnly? (cs : List Char) : Option Nat :=
  if cs ≠ [] ∧ cs.all Char.isDigit then some (digitsValue 0 cs) else none

/-- An exponent: the mark, an optional sign and digits, or nothing at all. -/
def readExponent? : List Char → Option Int
  | [] => some 0
  | c :: rest =>
      if c = 'e' ∨ c = 'E' then
        let (negative, digits) := readSign rest
        (digitsOnly? digits).map fun n => if negative then -(n : Int) else n
      else none

/-- A number without sign, as digits and a power of ten. -/
def readMagnitude? (cs : List Char) : Option (Nat × Int) := do
  let whole := cs.takeWhile Char.isDigit
  let rest := cs.dropWhile Char.isDigit
  let (fraction, rest) :=
    match rest with
    | '.' :: after => (after.takeWhile Char.isDigit, after.dropWhile Char.isDigit)
    | _ => ([], rest)
  if whole = [] ∧ fraction = [] then none
  else
    let exponent ← readExponent? rest
    some (digitsValue 0 (whole ++ fraction), exponent - fraction.length)

/-- Digits times a power of ten, rounded once. A power far outside the range of doubles is
settled by the number of digits, without being computed. -/
def roundDecimal (negative : Bool) (digits : Nat) (exponent : Int) : Float :=
  let size : Int := (Nat.toDigits 10 digits).length
  if digits = 0 then nearest negative 0 1
  else if 400 < size + exponent then nearest negative (Nat.pow 2 1024) 1
  else if size + exponent < -400 then nearest negative 0 1
  else ofDecimal negative digits exponent

/-- The words that stand for a double, in lower case. -/
def wordValue? (negative : Bool) (word : String) : Option Float :=
  if word = "inf" ∨ word = "infinity" then
    some (Float.ofBits (if negative then 0xFFF0000000000000 else 0x7FF0000000000000))
  else if word = "nan" then
    some (Float.ofBits (if negative then 0xFFF8000000000000 else 0x7FF8000000000000))
  else none

/-- The double written as a decimal number or as a word, if the text is one. -/
def readFloat? (s : String) : Option Float :=
  let (negative, rest) := readSign s.toList
  match readMagnitude? rest with
  | some (digits, exponent) => some (roundDecimal negative digits exponent)
  | none => wordValue? negative (String.ofList (rest.map Char.toLower))

end DataQuality.Decimal

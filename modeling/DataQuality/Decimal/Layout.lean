import DataQuality.Decimal.Shortest

/-!
# Layout of decimal numbers

How the shortest digits of a double are set out as text. Two layouts are in use: the one of
messages, always positional and without a superfluous point, and the one of documents, with a
point in every number and an exponent for the very large and the very small. A third function
rounds to a fixed number of places.
-/

namespace DataQuality.Decimal

/-- The decisions left open once the digits are known. -/
structure Layout where
  /-- The least and the greatest power of ten of a leading digit that is written positionally;
  every one of them when absent. -/
  positional : Option (Int × Int)
  /-- Whether a whole number ends in `.0`. -/
  point : Bool

/-- Numbers in messages: `100`, `0.1`, `1000000000000000000000`. -/
def Layout.plain : Layout := ⟨none, false⟩

/-- Numbers in documents: `100.0`, `0.1`, `1e+21`. -/
def Layout.document : Layout := ⟨some (-5, 15), true⟩

def decimalDigits (n : Nat) : List Char :=
  Nat.toDigits 10 n

def integerText (n : Int) : List Char :=
  if n < 0 then '-' :: decimalDigits n.natAbs else decimalDigits n.natAbs

/-- The power of ten of the leading digit. -/
def Scientific.leading (s : Scientific) : Int :=
  (decimalDigits s.digits).length - 1 + s.exponent

/-- A decimal written without an exponent. -/
def Scientific.positional (s : Scientific) (point : Bool) : List Char :=
  let ds := decimalDigits s.digits
  if 0 ≤ s.exponent then
    ds ++ List.replicate s.exponent.toNat '0' ++ if point then ['.', '0'] else []
  else
    let places := (-s.exponent).toNat
    let padded := List.replicate (places + 1 - ds.length) '0' ++ ds
    padded.take (padded.length - places) ++ '.' :: padded.drop (padded.length - places)

/-- A decimal written as one digit, the digits after a point, and a signed exponent. -/
def Scientific.exponential (s : Scientific) : List Char :=
  let body :=
    match decimalDigits s.digits with
    | [] => []
    | [d] => [d]
    | d :: rest => d :: '.' :: rest
  let e := s.leading
  body ++ 'e' :: (if e < 0 then '-' else '+') :: decimalDigits e.natAbs

def Layout.write (layout : Layout) (s : Scientific) : List Char :=
  let fits :=
    match layout.positional with
    | none => true
    | some (least, greatest) => least ≤ s.leading && s.leading ≤ greatest
  if fits then s.positional layout.point else s.exponential

/-- The text of a double: its sign, then its shortest digits in the given layout. -/
def Layout.render (layout : Layout) (x : Float) : String :=
  let magnitude :=
    if isFinite x then
      if (Dyadic.ofFloat x).significand = 0 then
        if layout.point then ['0', '.', '0'] else ['0']
      else layout.write (shortest x)
    else if fractionBits x = 0 then ['i', 'n', 'f']
    else ['N', 'a', 'N']
  let signed := signBit x && (isFinite x || fractionBits x == 0)
  String.ofList (if signed then '-' :: magnitude else magnitude)

def messageText (x : Float) : String := Layout.plain.render x

def documentText (x : Float) : String := Layout.document.render x

/-- A nonnegative quotient to one decimal place, a tie going to the even digit. -/
def onePlace (num den : Nat) : String :=
  let tenths := divNearest (10 * num) den
  String.ofList (decimalDigits (tenths / 10) ++ '.' :: decimalDigits (tenths % 10))

/-- A finite nonnegative double to one decimal place, rounded from its exact value. -/
def onePlaceText (x : Float) : String :=
  let d := Dyadic.ofFloat x
  let q := Quotient.scaled d.significand 2 d.exponent
  onePlace q.num q.den

end DataQuality.Decimal

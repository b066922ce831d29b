import DataQuality.Decimal.Binary64
import DataQuality.Decimal.Reader

/-!
# Scaled numbers

Numbers in documents are read in two steps: a significand of at most sixty-four bits, then one
multiplication or division by a power of ten in double arithmetic. Digits beyond the sixty-four
bits are dropped, those before the point raising the exponent. The result may be a unit in the
last place away from the nearest double; a number too large for a double has no value.
-/

namespace DataQuality.Decimal

/-- A significand and a power of ten. -/
structure Scaled where
  significand : Nat
  exponent : Int
  deriving DecidableEq, Repr

/-- The number of values of a word of sixty-four bits. -/
def wordSize : Nat := UInt64.size

/-- Takes digits into the significand while it stays a word; the rest is returned. -/
def Scaled.takeDigits (significand : Nat) : List Char → Nat × List Char
  | [] => (significand, [])
  | c :: rest =>
      let next := 10 * significand + digitValue c
      if next < wordSize then takeDigits next rest else (significand, c :: rest)

/-- The significand and exponent of the digits before and after the point. Digits before the
point that do not fit raise the exponent; after the point the first that does not fit is the
last one considered. -/
def Scaled.ofDigits (whole fraction : List Char) : Scaled :=
  let (high, dropped) := takeDigits 0 whole
  let (low, ignored) := takeDigits high fraction
  ⟨low, (dropped.length : Int) - (fraction.length - ignored.length : Nat)⟩

/-- The double nearest to `10 ^ n`. -/
def powerOfTen (n : Nat) : Float :=
  nearest false (Nat.pow 10 n) 1

def greatestPower : Nat := 308

/-- Divides by powers of ten, the greatest one first while the exponent is beyond it. -/
def scaleDown (x : Float) (n : Nat) : Nat → Float
  | 0 => x / powerOfTen (min n greatestPower)
  | fuel + 1 =>
      if n ≤ greatestPower then x / powerOfTen n
      else if x == 0 then x
      else scaleDown (x / powerOfTen greatestPower) (n - greatestPower) fuel

/-- The magnitude of a scaled number; absent when it is too large. After three divisions by the
greatest power nothing is left of a word. -/
def Scaled.magnitude? (s : Scaled) : Option Float :=
  let x := ofInt s.significand
  if s.exponent < 0 then some (scaleDown x (-s.exponent).toNat 3)
  else if s.significand = 0 then some x
  else if (greatestPower : Int) < s.exponent then none
  else
    let scaled := x * powerOfTen s.exponent.toNat
    if isFinite scaled then some scaled else none

/-- The greatest exponent that can be written out. -/
def exponentLimit : Nat := 2147483647

def clampExponent (e : Int) : Int :=
  max Int32.minValue.toInt (min e Int32.maxValue.toInt)

/-- The magnitude of a number from its digits and its written exponent. An exponent beyond the
limit makes zero, unless it is positive and the significand is not zero. -/
def readScaled? (whole fraction : List Char) (negativeExponent : Bool) (exponent : Nat) :
    Option Float :=
  let s := Scaled.ofDigits whole fraction
  if exponentLimit < exponent then
    if s.significand ≠ 0 ∧ negativeExponent = false then none else some (ofInt 0)
  else
    let shift : Int := if negativeExponent then -(exponent : Int) else exponent
    Scaled.magnitude? ⟨s.significand, clampExponent (s.exponent + shift)⟩

end DataQuality.Decimal

/-!
# Doubles as exact numbers

A finite double is a whole number times a power of two. This module reads that pair off the
bits, and goes back: `nearest` gives the double closest to a quotient of two natural numbers, a
tie going to the even significand and a value beyond the largest double to infinity. All
arithmetic is on natural numbers, so no intermediate step rounds.
-/

namespace DataQuality.Decimal

/-- The magnitude of a finite double: `significand * 2 ^ exponent`. -/
structure Dyadic where
  significand : Nat
  exponent : Int
  deriving DecidableEq, Repr

/-- The exponent of the smallest positive double. -/
def leastExponent : Int := -1074

/-- Whether the sign bit is set; zero and not-a-number have one too. -/
def signBit (x : Float) : Bool :=
  Nat.pow 2 63 ≤ x.toBits.toNat

/-- The eleven bits between sign and fraction. -/
def exponentBits (x : Float) : Nat :=
  x.toBits.toNat / Nat.pow 2 52 % Nat.pow 2 11

/-- The fifty-two lowest bits. -/
def fractionBits (x : Float) : Nat :=
  x.toBits.toNat % Nat.pow 2 52

/-- The magnitude of a finite double. -/
def Dyadic.ofFloat (x : Float) : Dyadic :=
  if exponentBits x = 0 then ⟨fractionBits x, leastExponent⟩
  else ⟨Nat.pow 2 52 + fractionBits x, (exponentBits x : Int) - 1 + leastExponent⟩

/-- Neither infinite nor not-a-number. -/
def isFinite (x : Float) : Bool :=
  exponentBits x != 2047

/-- The whole number nearest to a quotient, a tie going to the even one. -/
def divNearest (num den : Nat) : Nat :=
  let low := num / den
  let twice := 2 * (num % den)
  if twice < den then low
  else if den < twice then low + 1
  else if low % 2 = 0 then low else low + 1

/-- The exponent at which a positive quotient has fifty-three significant bits, or the least
exponent if that is larger. -/
def quotientExponent (num den : Nat) : Int :=
  let guess : Int := (num.log2 : Int) - den.log2 - 52
  let reaches : Bool :=
    if 0 ≤ guess then Nat.pow 2 52 * (den * Nat.pow 2 guess.toNat) ≤ num
    else Nat.pow 2 52 * den ≤ num * Nat.pow 2 (-guess).toNat
  max (if reaches then guess else guess - 1) leastExponent

def nearestBits (num den : Nat) : Nat :=
  if num = 0 ∨ den = 0 then 0
  else
    let e := quotientExponent num den
    let m :=
      if 0 ≤ e then divNearest num (den * Nat.pow 2 e.toNat)
      else divNearest (num * Nat.pow 2 (-e).toNat) den
    min (m + (e - leastExponent).toNat * Nat.pow 2 52) (2047 * Nat.pow 2 52)

def nearest (negative : Bool) (num den : Nat) : Float :=
  Float.ofBits (UInt64.ofNat (nearestBits num den + if negative then Nat.pow 2 63 else 0))

/-- The double nearest to a whole number. -/
def ofInt (n : Int) : Float :=
  nearest (decide (n < 0)) n.natAbs 1

/-- The double nearest to `digits * 10 ^ exponent`, with a sign. -/
def ofDecimal (negative : Bool) (digits : Nat) (exponent : Int) : Float :=
  if 0 ≤ exponent then nearest negative (digits * Nat.pow 10 exponent.toNat) 1
  else nearest negative digits (Nat.pow 10 (-exponent).toNat)

end DataQuality.Decimal

import DataQuality.Decimal.Binary64

/-!
# Shortest digits

The fewest decimal digits that read back to the same double and, among those, the ones nearest
to it. The doubles that a real number rounds to are given by the interval of reals around the
value, whose ends belong to it when the significand is even; a decimal grid with a point in that
interval has one at a neighbour of the value, so only two points are tried on each grid.
-/

namespace DataQuality.Decimal

/-- A positive decimal number `digits * 10 ^ exponent`. -/
structure Scientific where
  digits : Nat
  exponent : Int
  deriving DecidableEq, Repr

/-- A positive rational number, as a quotient. -/
structure Quotient where
  num : Nat
  den : Nat
  deriving DecidableEq, Repr

namespace Quotient

def scaled (n base : Nat) (e : Int) : Quotient :=
  if 0 ≤ e then ⟨n * base.pow e.toNat, 1⟩ else ⟨n, base.pow (-e).toNat⟩

/-- Comparison by cross products. -/
def le (x y : Quotient) : Bool := x.num * y.den ≤ y.num * x.den

/-- Strict comparison by cross products. -/
def lt (x y : Quotient) : Bool := x.num * y.den < y.num * x.den

end Quotient

/-- The reals that round to a double: their two ends and whether the ends belong to them. -/
structure Rounding where
  low : Quotient
  high : Quotient
  closed : Bool

/-- The interval that rounds to the double `m * 2 ^ q`. Below a power of two the spacing is half
as wide, except at the least exponent. -/
def Rounding.of (d : Dyadic) : Rounding :=
  let narrow := d.significand == Nat.pow 2 52 && leastExponent < d.exponent
  { low := .scaled (if narrow then 4 * d.significand - 1 else 4 * d.significand - 2) 2
      (d.exponent - 2)
    high := .scaled (4 * d.significand + 2) 2 (d.exponent - 2)
    closed := d.significand % 2 == 0 }

/-- Whether a number rounds to the double of the interval. -/
def Rounding.has (r : Rounding) (x : Quotient) : Bool :=
  if r.closed then r.low.le x && x.le r.high else r.low.lt x && x.lt r.high

/-- The number of decimal places before the point: the least `p` with `x < 10 ^ p`, searched
upward from a lower bound. -/
def decimalPlaces (x : Quotient) (start : Int) : Nat → Int
  | 0 => start
  | fuel + 1 =>
      if x.lt (.scaled 1 10 start) then start else decimalPlaces x (start + 1) fuel

/-- The point of the decimal grid `10 ^ scale` that is nearest to the value among its two
neighbours that round to the double, if there is one. -/
def gridPoint? (value : Quotient) (r : Rounding) (scale : Int) : Option Nat :=
  let unit := Quotient.scaled 1 10 scale
  let below := value.num * unit.den / (value.den * unit.num)
  let lowHit := below != 0 && r.has (.scaled below 10 scale)
  let highHit := r.has (.scaled (below + 1) 10 scale)
  if lowHit && highHit then
    -- distance to the lower point against distance to the upper one
    let rest := 2 * (value.num * unit.den % (value.den * unit.num))
    if rest < value.den * unit.num then some below
    else if value.den * unit.num < rest then some (below + 1)
    else if below % 2 = 0 then some below else some (below + 1)
  else if lowHit then some below
  else if highHit then some (below + 1)
  else none

/-- The first grid with a hit, from the coarsest on. -/
def firstHit (value : Quotient) (r : Rounding) (scale : Int) : Nat → Scientific
  | 0 => ⟨0, scale⟩
  | fuel + 1 =>
      match gridPoint? value r scale with
      | some digits => ⟨digits, scale⟩
      | none => firstHit value r (scale - 1) fuel

/-- Moves factors of ten from the digits to the exponent. -/
def Scientific.normalize (s : Scientific) : Scientific :=
  if h : s.digits ≠ 0 ∧ s.digits % 10 = 0 then
    Scientific.normalize ⟨s.digits / 10, s.exponent + 1⟩
  else s
  termination_by s.digits
  decreasing_by omega

def shortest (x : Float) : Scientific :=
  let d := Dyadic.ofFloat x
  let value := Quotient.scaled d.significand 2 d.exponent
  -- a lower bound for the places, one third below the count of bits
  let bits : Int := (d.significand.log2 : Int) + d.exponent
  let start : Int := (bits * 30103).fdiv 100000
  let places := decimalPlaces value start 4
  (firstHit value (Rounding.of d) (places - 1) 20).normalize

end DataQuality.Decimal

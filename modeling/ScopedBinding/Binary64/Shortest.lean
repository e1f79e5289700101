import ScopedBinding.Binary64.Basic

/-!
# The decimal text of a binary64 number

A finite number is written with the fewest significant digits that still read back as that number,
and of those with the digits nearest to it. The digits stand in positional notation, without an
exponent and without a point where there is no fraction.

A decimal grid is the set of multiples of a power of ten. `Binary64.shortest` looks for the coarsest
grid that has a point in the rounding interval of the number, the reals that are read as it. Only
the two neighbours of the number on a grid need to be tried: if any point of the grid lies in the
interval, one of them does.
-/

set_option autoImplicit false

namespace ScopedBinding

/-- A decimal `digits · 10 ^ scale`. -/
structure Decimal where
  digits : Nat
  scale : Int
  deriving DecidableEq

/-- A positive number and its rounding interval, all three in units of `2 ^ unit`. -/
structure RoundingInterval where
  unit : Int
  low : Nat
  value : Nat
  high : Nat
  closed : Bool

namespace Binary64

/-- The rounding interval of the absolute value of a finite number other than zero. It reaches half
way to both neighbours, of which the lower is closer at a power of two, and has its ends when the
mantissa is even. -/
def interval (x : Binary64) : RoundingInterval :=
  let m := x.mantissa
  let below := if x.fraction = 0 && 1 < x.exponentField then 1 else 2
  ⟨x.exponent - 2, 4 * m - below, 4 * m, 4 * m + 2, m % 2 == 0⟩

end Binary64

namespace RoundingInterval

/-- Whether `a` comes before `b`, or at it where the interval has its ends. -/
def precedes (i : RoundingInterval) (a b : Nat) : Bool :=
  a < b || (i.closed && a == b)

/-- The point that the interval has on the grid of `10 ^ scale`, if any: of the two neighbours of the
value the one inside, of two inside the nearer, and of two equally near the upper. -/
def onGrid? (i : RoundingInterval) (scale : Int) : Option Decimal :=
  let toGrid := Nat.pow 2 i.unit.toNat * Nat.pow 10 (-scale).toNat
  let step := Nat.pow 10 scale.toNat * Nat.pow 2 (-i.unit).toNat
  let floor := i.value * toGrid / step
  let down := i.precedes (i.low * toGrid) (floor * step)
  let up := i.precedes ((floor + 1) * step) (i.high * toGrid)
  let upperHalf := step ≤ 2 * (i.value * toGrid - floor * step)
  if up && (!down || upperHalf) then some ⟨floor + 1, scale⟩
  else if down then some ⟨floor, scale⟩
  else none

/-- The first point on the grids of `10 ^ scale` and the finer ones, of which `count` are tried. -/
def firstOnGrid (i : RoundingInterval) : Nat → Int → Decimal
  | 0, scale => ⟨i.value, scale⟩
  | count + 1, scale => (i.onGrid? scale).getD (firstOnGrid i count (scale - 1))

/-- A power of ten above the value by its exponent. -/
def ceilingScale (i : RoundingInterval) : Int :=
  let whole := i.value * Nat.pow 2 i.unit.toNat / Nat.pow 2 (-i.unit).toNat
  if whole = 0 then 1 - ((Nat.toDigits 10 (Nat.pow 2 (-i.unit).toNat / i.value)).length : Int)
  else (Nat.toDigits 10 whole).length

/-- The decimal with the fewest digits in the interval, and of those the nearest to its value. -/
def shortest (i : RoundingInterval) : Decimal :=
  i.firstOnGrid 19 i.ceilingScale

end RoundingInterval

/-- A decimal in positional notation. -/
def Decimal.positional (d : Decimal) : List Char :=
  let cs := Nat.toDigits 10 d.digits
  if 0 ≤ d.scale then cs ++ List.replicate d.scale.toNat '0'
  else
    let places := (-d.scale).toNat
    let padded := List.replicate (places + 1 - cs.length) '0' ++ cs
    let whole := padded.length - places
    padded.take whole ++ '.' :: padded.drop whole

namespace Binary64

/-- The sign of a number as it is written. -/
def sign (x : Binary64) : List Char :=
  if x.isNegative then ['-'] else []

/-- The text of a number with the fewest digits. A NaN has no sign. -/
def text (x : Binary64) : String :=
  String.ofList <|
    if x.isNaN then ['N', 'a', 'N']
    else x.sign ++
      if !x.isFinite then ['i', 'n', 'f']
      else if x.isZero then ['0']
      else x.interval.shortest.positional

/-- The text that tells a number from an integer: a number without a fractional part has all its
digits and the fraction `.0`. -/
def distinctText (x : Binary64) : String :=
  if x.isIntegral then
    String.ofList (x.sign ++ Nat.toDigits 10 x.integralPart ++ ['.', '0'])
  else x.text

end Binary64

end ScopedBinding

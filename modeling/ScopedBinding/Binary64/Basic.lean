/-!
# Binary64 numbers

A binary64 number is its word of 64 bits: a sign, an exponent field and a fraction. A finite number
is `± mantissa · 2 ^ exponent`. Two numbers are equal as numbers (`Binary64.equals`) when neither
is a NaN and they denote the same point, so the two zeros are equal although their words differ.
-/

set_option autoImplicit false

namespace ScopedBinding

/-- A binary64 number, by its word. -/
structure Binary64 where
  bits : UInt64
  deriving DecidableEq

namespace Binary64

/-- Whether the sign bit is set. -/
def isNegative (x : Binary64) : Bool :=
  Nat.pow 2 63 ≤ x.bits.toNat

/-- The exponent field, from 0 to 2047. -/
def exponentField (x : Binary64) : Nat :=
  x.bits.toNat / Nat.pow 2 52 % Nat.pow 2 11

/-- The fraction field, below `2 ^ 52`. -/
def fraction (x : Binary64) : Nat :=
  x.bits.toNat % Nat.pow 2 52

/-- Whether the word is neither a NaN nor an infinity. -/
def isFinite (x : Binary64) : Bool :=
  x.exponentField != 2047

/-- Whether the word is a NaN. -/
def isNaN (x : Binary64) : Bool :=
  x.exponentField == 2047 && x.fraction != 0

/-- The mantissa of a finite number: the fraction, with the leading bit that a normal number
leaves out. -/
def mantissa (x : Binary64) : Nat :=
  if x.exponentField = 0 then x.fraction else x.fraction + Nat.pow 2 52

/-- The exponent that scales the mantissa of a finite number. -/
def exponent (x : Binary64) : Int :=
  if x.exponentField = 0 then -1074 else (x.exponentField : Int) - 1075

/-- Whether a number is one of the two zeros. -/
def isZero (x : Binary64) : Bool :=
  x.exponentField == 0 && x.fraction == 0

/-- Whether a number is finite and has no fractional part. -/
def isIntegral (x : Binary64) : Bool :=
  x.isFinite && (0 ≤ x.exponent || x.mantissa % Nat.pow 2 (-x.exponent).toNat == 0)

/-- The absolute value of a finite number without its fractional part. -/
def integralPart (x : Binary64) : Nat :=
  x.mantissa * Nat.pow 2 x.exponent.toNat / Nat.pow 2 (-x.exponent).toNat

/-- Whether two numbers are equal as numbers. -/
def equals (x y : Binary64) : Bool :=
  !x.isNaN && !y.isNaN && (x.bits == y.bits || (x.isZero && y.isZero))

/-- A natural number cut to 53 significant bits, of which the first is `2 ^ e`. A half goes to the
even neighbour. -/
def significand (n e : Nat) : Nat :=
  if e ≤ 52 then n * Nat.pow 2 (52 - e)
  else
    let unit := Nat.pow 2 (e - 52)
    let q := n / unit
    let r := n % unit
    if unit < 2 * r || (unit == 2 * r && q % 2 == 1) then q + 1 else q

/-- The number nearest to an integer of at most 64 bits; a half goes to the even neighbour. -/
def ofInt (n : Int) : Binary64 :=
  let a := n.natAbs
  let magnitude := if a = 0 then 0 else (a.log2 + 1022) * Nat.pow 2 52 + significand a a.log2
  ⟨UInt64.ofNat (magnitude + if n < 0 then Nat.pow 2 63 else 0)⟩

end Binary64

end ScopedBinding

import Stencil.Number.Basic

/-!
# Rounding to the nearest number

`Magnitude.nearest? n d` is the magnitude nearest to the fraction `n / d`, the even one of two that
are equally near, and `none` if the fraction is beyond the largest. A `Decimal` is read, and whole
numbers, products and quotients are formed, by rounding their exact value once.
-/

namespace Stencil

/-- The whole number nearest to `n / d`; halfway between two it is the even one. -/
def roundDiv (n d : Nat) : Nat :=
  if 2 * (n % d) < d then n / d
  else if d < 2 * (n % d) then n / d + 1
  else n / d + n / d % 2

namespace Magnitude

/-- The magnitude nearest to `n / d`, a tie going to the even significand; `none` beyond the largest
one. In a row of magnitudes with the same step, ranks count steps, so rounding the fraction to a
multiple of the step gives the rank. -/
def nearest? (n d : Nat) : Option Magnitude :=
  let scaled := n <<< 1074
  let shift := (scaled / d).log2 - 52
  let rank := (shift <<< 52) + roundDiv scaled (d <<< shift)
  if h : rank < count then some ⟨rank, h⟩ else none

/-- The product of two magnitudes, rounded once. -/
def mul? (x y : Magnitude) : Option Magnitude :=
  nearest? (x.units * y.units) (1 <<< 2148)

/-- The quotient of two magnitudes, rounded once. -/
def div? (x y : Magnitude) : Option Magnitude :=
  nearest? x.units y.units

end Magnitude

/-- The number `coefficient * 10 ^ exponent`. -/
structure Decimal where
  coefficient : Nat
  exponent : Int
deriving DecidableEq, Inhabited

namespace Decimal

/-- The numerator of the decimal as a fraction. -/
def num (d : Decimal) : Nat :=
  d.coefficient * Nat.pow 10 d.exponent.toNat

/-- The denominator of the decimal as a fraction. -/
def den (d : Decimal) : Nat :=
  Nat.pow 10 (-d.exponent).toNat

/-- The magnitude nearest to a decimal. Exponents that settle the answer alone are not raised to a
power: above `400` every nonzero decimal is too large, and so far below the size of the coefficient
every one is nearest to zero. -/
def nearest? (d : Decimal) : Option Magnitude :=
  if d.coefficient = 0 then some .zero
  else if 400 < d.exponent then none
  else if d.exponent < -(1200 + d.coefficient.log2) then some .zero
  else Magnitude.nearest? d.num d.den

end Decimal

namespace Number

/-- A magnitude with a sign; a missing one stands for what is too large. -/
def ofMagnitude? (negative : Bool) : Option Magnitude → Number
  | some m => .finite ⟨negative, m⟩
  | none => .infinity negative

/-- The number nearest to a decimal with a sign. -/
def ofDecimal (negative : Bool) (d : Decimal) : Number :=
  ofMagnitude? negative d.nearest?

/-- The number nearest to a natural number. -/
def ofNat (n : Nat) : Number :=
  ofMagnitude? false (Magnitude.nearest? n 1)

/-- The number nearest to an integer. -/
def ofInt (i : Int) : Number :=
  ofMagnitude? (i < 0) (Magnitude.nearest? i.natAbs 1)

end Number

end Stencil

import Stencil.Json.Basic

/-!
# Numbers in JSON

A number in a document is read from its leading digits, as many as fit into 64 bits. They are
rounded to a magnitude, which is then multiplied or divided by a power of ten and rounded once more.
Up to `2 ^ 53` in the digits and `10 ^ 22` in the power both roundings but the last are exact, so
the result is the nearest number; beyond that it may be its neighbour. What is too large is refused.
-/

namespace Stencil

namespace Magnitude

/-- The largest power of ten that is in the range of magnitudes has the exponent `308`. -/
def maxTenPower : Nat := 308

/-- A magnitude times `10 ^ k`; `none` if that is too large. -/
def timesTenPower? (m : Magnitude) (k : Nat) : Option Magnitude :=
  if k ≤ maxTenPower then (nearest? (Nat.pow 10 k) 1).bind m.mul?
  else if m = zero then some zero
  else none

/-- A magnitude divided by `10 ^ k`, in steps of the largest power within the range. -/
def overTenPower? (m : Magnitude) (k : Nat) : Option Magnitude :=
  if _h : k ≤ maxTenPower then (nearest? (Nat.pow 10 k) 1).bind m.div?
  else if m = zero then some zero
  else
    let quotient := (nearest? (Nat.pow 10 maxTenPower) 1).bind m.div?
    quotient.bind fun q => q.overTenPower? (k - maxTenPower)
termination_by k
decreasing_by
  have : 0 < maxTenPower := by decide
  omega

end Magnitude

namespace Json

/-- Appends digits to a number while the result fits into 64 bits; the second part counts the digits
from the first one that did not fit. -/
def absorb (n : Nat) : List Char → Nat × Nat
  | [] => (n, 0)
  | c :: cs =>
    if 10 * n + Digits.value c ≤ Number.maxCount then absorb (10 * n + Digits.value c) cs
    else (n, cs.length + 1)

/-- The number with the given sign, digits before and after the point, and exponent; `none` if it is
too large. -/
def number? (negative : Bool) (whole fraction : List Char) (exponent : Int) : Option Finite :=
  let front := absorb 0 whole
  let all := absorb front.1 fraction
  let e := exponent + front.2 - (fraction.length - all.2 : Nat)
  let m := (Magnitude.nearest? all.1 1).bind fun m =>
    if 0 ≤ e then m.timesTenPower? e.toNat else m.overTenPower? (-e).toNat
  m.map fun m => ⟨negative, m⟩

end Json

end Stencil

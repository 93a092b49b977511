import Stencil.Number.Digits
import Stencil.Number.Rounding

/-!
# How numbers are written

A number is written with the shortest digits that read back. For one digit, two digits and so on,
the value lies between two neighbours on the grid of decimals with that many digits; the first grid
on which one of them reads back gives the answer, and of two that do the nearer one is taken.
Seventeen digits always suffice; the exact expansion stands behind them so that the search needs no
proof of that.

From `1e21` on and below `1e-6` a number takes the exponent form, in which the exponent always has a
sign; in between it is written in full, a whole number without a fraction. Zero has no sign.
-/

namespace Stencil

namespace Magnitude

/-- The exponent of the leading digit of a magnitude other than zero. It is counted on the whole
part of the value or, if there is none, on that of the value times `10 ^ 400`, which is never zero.
-/
def leadingExponent (m : Magnitude) : Int :=
  let whole := m.units >>> 1074
  if whole = 0 then (Digits.digits ((m.units * Nat.pow 10 400) >>> 1074)).length - 401
  else (Digits.digits whole).length - 1

/-- The decimal with the last digit at exponent `e` that reads back as `m`, if one does. The
candidates are the two neighbours of `m` among such decimals; the nearer one is taken if both read
back, and the larger one if they are equally near. -/
def onGrid? (m : Magnitude) (e : Int) : Option Decimal :=
  let num := m.units * Nat.pow 10 (-e).toNat
  let den := Nat.pow 10 e.toNat <<< 1074
  let lower : Decimal := ⟨num / den, e⟩
  let upper : Decimal := ⟨num / den + 1, e⟩
  if upper.nearest? = some m ∧ (den ≤ 2 * (num % den) ∨ lower.nearest? ≠ some m) then some upper
  else if lower.nearest? = some m then some lower
  else none

/-- The value of a magnitude as a decimal, without any rounding. -/
def exact (m : Magnitude) : Decimal :=
  ⟨m.units * Nat.pow 5 1074, -1074⟩

/-- The shortest decimal that reads back as the magnitude. -/
def shortest (m : Magnitude) : Decimal :=
  let e := m.leadingExponent
  ((List.range 17).findSome? fun (n : Nat) => m.onGrid? (e - n)).getD m.exact

end Magnitude

/-- The digits of `0.d₁d₂… * 10 ^ point` written in full. -/
def positional (ds : List Char) (point : Int) : List Char :=
  if point ≤ 0 then '0' :: '.' :: List.replicate (-point).toNat '0' ++ ds
  else if ds.length ≤ point then ds ++ List.replicate (point.toNat - ds.length) '0'
  else ds.take point.toNat ++ '.' :: ds.drop point.toNat

/-- The digits of `d₁.d₂… * 10 ^ e` written with an exponent. -/
def exponential (ds : List Char) (e : Int) : List Char :=
  let fraction := if ds.length ≤ 1 then [] else '.' :: ds.drop 1
  ds.take 1 ++ fraction ++ 'e' :: (if e < 0 then '-' else '+') :: Digits.digits e.natAbs

/-- A magnitude in the shortest digits that read back. -/
def Magnitude.text (m : Magnitude) : List Char :=
  if m.rank = 0 then ['0']
  else
    let all := Digits.digits m.shortest.coefficient
    let ds := (all.reverse.dropWhile (· == '0')).reverse
    let point := m.shortest.exponent + all.length
    if -6 < point ∧ point ≤ 21 then positional ds point else exponential ds (point - 1)

/-- A number as text. -/
def Number.text : Number → String
  | nan => "NaN"
  | infinity negative => if negative then "-Infinity" else "Infinity"
  | finite x =>
    let digits := x.magnitude.text
    String.ofList (if x.negative && x.magnitude.rank != 0 then '-' :: digits else digits)

end Stencil

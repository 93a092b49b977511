import Stencil.Number.Digits
import Stencil.Number.Rounding
import Stencil.Text.Classes

/-!
# How text is read as a number

Blanks around the text do not count, and a text of blanks alone is zero. `Infinity` may have a sign.
A decimal has an optional sign, digits with at most one point among or beside them, and an optional
exponent. Every other text is no number. A decimal is rounded to the nearest number; only an
exponent too large for any use is read in part.
-/

namespace Stencil

/-- Takes a sign, and tells whether it was a minus. -/
def takeSign : List Char → Bool × List Char
  | '-' :: s => (true, s)
  | '+' :: s => (false, s)
  | s => (false, s)

/-- The digits in front. -/
def leadingDigits (s : List Char) : List Char :=
  s.takeWhile Char.isDigit

/-- What follows the digits in front. -/
def afterDigits (s : List Char) : List Char :=
  s.dropWhile Char.isDigit

namespace Decimal

/-- The decimal with the given digits before and after the point. -/
def ofParts (whole fraction : List Char) (exponent : Int) : Decimal :=
  ⟨Digits.ofLongDigits (whole ++ fraction), exponent - fraction.length⟩

/-- Once the digits of an exponent have reached this value, further ones do not count. -/
def exponentBound : Nat := 65536

/-- The value of the digits of an exponent. Below `exponentBound` it is the number they denote. A
larger exponent outweighs any coefficient of ordinary length, so it is cut short. -/
def exponentOf (digits : List Char) : Nat :=
  digits.foldl (fun n c => if n < exponentBound then 10 * n + Digits.value c else n) 0

/-- Reads an exponent at the end of a decimal; there need not be one. -/
def exponent? : List Char → Option Int
  | [] => some 0
  | c :: s =>
    let negative := (takeSign s).1
    let digits := (takeSign s).2
    if (c = 'e' ∨ c = 'E') ∧ digits ≠ [] ∧ digits.all Char.isDigit then
      some (if negative then -(exponentOf digits : Int) else exponentOf digits)
    else none

/-- Reads a decimal without a sign. -/
def ofText? (s : List Char) : Option Decimal :=
  let whole := leadingDigits s
  let point := (afterDigits s).head? == some '.'
  let r := if point then (afterDigits s).drop 1 else afterDigits s
  let fraction := if point then leadingDigits r else []
  let r := if point then afterDigits r else r
  if whole = [] ∧ fraction = [] then none
  else (exponent? r).map (ofParts whole fraction)

end Decimal

/-- The word for an infinite number. -/
def infinityWord : List Char :=
  ['I', 'n', 'f', 'i', 'n', 'i', 't', 'y']

/-- The number that a text denotes. -/
def Number.ofText (s : String) : Number :=
  let t := Text.trim s.toList
  let negative := (takeSign t).1
  let body := (takeSign t).2
  if t = [] then .zero
  else if body = infinityWord then .infinity negative
  else match Decimal.ofText? body with
    | some d => .ofDecimal negative d
    | none => .nan

end Stencil

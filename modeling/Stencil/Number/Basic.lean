/-!
# Numbers

The numbers of a template are the double-precision numbers of IEEE 754, kept as exact data. A
`Magnitude` is a finite number without its sign; its `rank` counts the magnitudes below it, so the
order of magnitudes is the order of ranks, and `units` is its value in multiples of `2⁻¹⁰⁷⁴`, the
least positive one. Everything else about numbers is arithmetic on these two natural numbers.
-/

namespace Stencil

/-- The number of magnitudes: 2047 rows of `2 ^ 52`. -/
def Magnitude.count : Nat :=
  2047 <<< 52

/-- A finite number without sign, given by how many magnitudes lie below it. -/
@[ext] structure Magnitude where
  rank : Nat
  rank_lt : rank < Magnitude.count
deriving DecidableEq

namespace Magnitude

/-- The magnitude zero. -/
def zero : Magnitude := ⟨0, by decide⟩

instance : Inhabited Magnitude := ⟨zero⟩

/-- The power of two in `units`: each row after the second doubles the step. -/
def shift (m : Magnitude) : Nat :=
  (m.rank >>> 52) - 1

/-- The factor in front of the power of two. -/
def significand (m : Magnitude) : Nat :=
  m.rank - (m.shift <<< 52)

/-- The value in multiples of `2⁻¹⁰⁷⁴`. -/
def units (m : Magnitude) : Nat :=
  m.significand <<< m.shift

end Magnitude

/-- A finite number. Zero comes with either sign. -/
@[ext] structure Finite where
  negative : Bool
  magnitude : Magnitude
deriving DecidableEq, Inhabited

/-- A double-precision number: finite, infinite with a sign, or no number at all. -/
inductive Number
  | nan
  | infinity (negative : Bool)
  | finite (x : Finite)
deriving DecidableEq, Inhabited

namespace Number

/-- Zero with the positive sign. -/
def zero : Number := .finite ⟨false, .zero⟩

/-- The place of a number in the order of numbers; both zeros share one, and `nan` has none. -/
def place? : Number → Option Int
  | nan => none
  | infinity negative => some (if negative then -(Magnitude.count : Int) else Magnitude.count)
  | finite x => some (if x.negative then -(x.magnitude.rank : Int) else x.magnitude.rank)

/-- Whether a test holds of the places of two numbers; it fails if one of them is `nan`. -/
def related (test : Int → Int → Bool) (x y : Number) : Bool :=
  match x.place?, y.place? with
  | some a, some b => test a b
  | _, _ => false

/-- Equality of numbers: `nan` differs from itself, and the two zeros are equal. -/
def same : Number → Number → Bool := related fun a b => a == b

/-- The order of numbers, in which `nan` is below and above nothing. -/
def less : Number → Number → Bool := related fun a b => a < b

/-- The reflexive order of numbers. -/
def lessOrSame : Number → Number → Bool := related fun a b => a ≤ b

/-- Neither zero nor `nan`. -/
def isNonzero : Number → Bool
  | nan => false
  | infinity _ => true
  | finite x => x.magnitude.rank != 0

/-- The 64 bits of a number, as a natural number: a sign bit above the rank. -/
def toBits : Number → Nat
  | nan => Magnitude.count + (1 <<< 51)
  | infinity negative => (negative.toNat <<< 63) + Magnitude.count
  | finite x => (x.negative.toNat <<< 63) + x.magnitude.rank

/-- The number with the given 64 bits; higher bits are ignored. -/
def ofBits (bits : Nat) : Number :=
  let negative := (bits >>> 63) % 2 == 1
  let rank := bits % (1 <<< 63)
  if h : rank < Magnitude.count then .finite ⟨negative, ⟨rank, h⟩⟩
  else if rank = Magnitude.count then .infinity negative
  else .nan

/-- The largest count. -/
def maxCount : Nat :=
  18446744073709551615

/-- A number as a count: what is not positive counts as zero, and fractions are dropped. A count
that does not fit in 64 bits becomes the largest one that does. -/
def toCount : Number → Nat
  | nan => 0
  | infinity negative => if negative then 0 else maxCount
  | finite x => if x.negative then 0 else min (x.magnitude.units >>> 1074) maxCount

end Number

end Stencil

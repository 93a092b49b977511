/-!
# Decimal digits

Natural numbers as lists of ASCII digits, most significant first: `digits` writes one without
leading zeros, `ofDigits` reads any list, and `ofNumeral?` accepts exactly what `digits` writes. A
list of any length is read soon by `ofLongDigits`, which agrees with `ofDigits`.
-/

namespace Stencil.Digits

/-- The value of a digit. -/
def value (c : Char) : Nat :=
  c.toNat - '0'.toNat

/-- The number that a list of digits denotes. -/
def ofDigits (cs : List Char) : Nat :=
  cs.foldl (fun n c => 10 * n + value c) 0

/-- A block of digits is full once ten to its length has passed this number. -/
def fullBlock : Nat := 1 <<< 2048

/-- Goes on reading digits after `n`, which stands before a block: the block has the value `block`
so far, and `scale` is ten to its length. -/
def ofBlocks (n block scale : Nat) : List Char → Nat
  | [] => n * scale + block
  | c :: cs =>
    if scale < fullBlock then ofBlocks n (10 * block + value c) (10 * scale) cs
    else ofBlocks (n * scale + block) (value c) 10 cs

/-- The number that a list of digits denotes. Blocks of digits are read one by one, so that only the
ends of blocks cost a step on the whole number. -/
def ofLongDigits (cs : List Char) : Nat :=
  ofBlocks 0 0 1 cs

/-- Reading by blocks is reading digit by digit, from the number that the blocks so far make. -/
theorem ofBlocks_eq (n block scale : Nat) (cs : List Char) :
    ofBlocks n block scale cs = cs.foldl (fun n c => 10 * n + value c) (n * scale + block) := by
  induction cs generalizing n block scale with
  | nil => rfl
  | cons c cs ih =>
    rw [ofBlocks, List.foldl_cons]
    split
    · rw [ih, Nat.mul_left_comm, Nat.mul_add, Nat.add_assoc]
    · rw [ih, Nat.mul_comm _ 10]

/-- Reading by blocks gives the number that the digits denote. -/
theorem ofLongDigits_eq (cs : List Char) : ofLongDigits cs = ofDigits cs := by
  rw [ofLongDigits, ofBlocks_eq, Nat.zero_mul, ofDigits]

/-- The digits of a number; zero has one. -/
def digits (n : Nat) : List Char :=
  Nat.toDigits 10 n

/-- Reads the digits of a number written as `digits` writes it: without a leading zero, sign or any
other character. -/
def ofNumeral? (cs : List Char) : Option Nat :=
  let n := ofDigits cs
  if digits n = cs then some n else none

/-- What is read as the numeral of a number is how that number is written. -/
theorem digits_of_ofNumeral? {cs : List Char} {n : Nat} (h : ofNumeral? cs = some n) :
    digits n = cs := by
  unfold ofNumeral? at h
  dsimp only at h
  split at h
  · case isTrue heq => exact Option.some.inj h ▸ heq
  · case isFalse => contradiction

end Stencil.Digits

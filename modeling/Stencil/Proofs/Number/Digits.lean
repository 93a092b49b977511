import Mathlib.Algebra.Order.Ring.Nat
import Mathlib.Tactic.Lemma
import Stencil.Number.Digits
import Stencil.Number.Reading

/-!
# What digits denote

The number that a list of digits denotes is put together from those of its parts
(`Digits.ofDigits_append`), zeros in front do not count, and the length of the list bounds it.

The digits of an exponent are read until their value has reached a bound. What is read is what they
denote, or both have reached it (`Decimal.exponentOf_eq_or_le`).
-/

namespace Stencil

namespace Digits

/-- Digits denote what the core library reads them as. -/
lemma ofDigits_eq (cs : List Char) : ofDigits cs = Nat.ofDigitChars 10 cs 0 :=
  Nat.ofDigitChars_eq_foldl.symm

/-- Digits behind others are digits of a lower order. -/
lemma ofDigits_append (cs ds : List Char) :
    ofDigits (cs ++ ds) = ofDigits cs * 10 ^ ds.length + ofDigits ds := by
  rw [ofDigits_eq, ofDigits_eq, ofDigits_eq, Nat.ofDigitChars_append,
    Nat.ofDigitChars_eq_ofDigitChars_zero, Nat.mul_comm]

/-- One digit denotes its value. -/
lemma ofDigits_singleton (c : Char) : ofDigits [c] = value c := by
  rw [ofDigits, List.foldl_cons, List.foldl_nil, Nat.mul_zero, Nat.zero_add]

/-- Zeros denote zero. -/
lemma ofDigits_replicate_zero (k : Nat) : ofDigits (List.replicate k '0') = 0 := by
  rw [ofDigits_eq, Nat.ofDigitChars_replicate_zero, Nat.mul_zero]

/-- Zeros in front do not count. -/
lemma ofDigits_replicate_zero_append (k : Nat) (ds : List Char) :
    ofDigits (List.replicate k '0' ++ ds) = ofDigits ds := by
  rw [ofDigits_append, ofDigits_replicate_zero, Nat.zero_mul, Nat.zero_add]

/-- Zeros are digits. -/
lemma all_replicate_zero (k : Nat) : (List.replicate k '0').all Char.isDigit = true :=
  List.all_eq_true.mpr fun c hc => by
    rw [List.eq_of_mem_replicate hc]
    rfl

/-- The value of a digit is below ten. -/
lemma value_lt {c : Char} (h : c.isDigit = true) : value c < 10 := by
  rw [Char.isDigit, Bool.and_eq_true, decide_eq_true_eq, decide_eq_true_eq] at h
  have hle : c.toNat ≤ 57 := UInt32.le_iff_toNat_le.mp h.2
  change c.toNat - 48 < 10
  omega

/-- Digits denote less than ten to their number. -/
lemma ofDigits_lt {cs : List Char} (h : cs.all Char.isDigit = true) :
    ofDigits cs < 10 ^ cs.length := by
  induction cs with
  | nil => exact Nat.one_pos
  | cons c cs ih =>
    rw [List.all_cons, Bool.and_eq_true] at h
    calc ofDigits (c :: cs) = value c * 10 ^ cs.length + ofDigits cs := by
          rw [← List.singleton_append, ofDigits_append, ofDigits_singleton]
      _ < value c * 10 ^ cs.length + 10 ^ cs.length := Nat.add_lt_add_left (ih h.2) _
      _ = (value c + 1) * 10 ^ cs.length := (Nat.succ_mul _ _).symm
      _ ≤ 10 * 10 ^ cs.length := Nat.mul_le_mul_right _ (value_lt h.1)
      _ = 10 ^ (c :: cs).length := by rw [List.length_cons, Nat.pow_succ']

/-- The digits of a number denote it. -/
lemma ofDigits_digits (n : Nat) : ofDigits (digits n) = n :=
  Nat.ofDigitChars_ten_toDigits

/-- The digits of a number, read in blocks, denote it. -/
lemma ofLongDigits_digits (n : Nat) : ofLongDigits (digits n) = n := by
  rw [ofLongDigits_eq, ofDigits_digits]

/-- The digits of a number are digits. -/
lemma isDigit_of_mem_digits {n : Nat} {c : Char} (h : c ∈ digits n) : c.isDigit = true :=
  Nat.isDigit_of_mem_toDigits (by decide) (by decide) h

/-- All digits of a number are digits. -/
lemma all_digits (n : Nat) : (digits n).all Char.isDigit = true :=
  List.all_eq_true.mpr fun _ => isDigit_of_mem_digits

/-- A number has a digit. -/
lemma digits_ne_nil (n : Nat) : digits n ≠ [] :=
  Nat.toDigits_ne_nil

/-- A number is less than ten to the number of its digits. -/
lemma lt_pow_length_digits (n : Nat) : n < 10 ^ (digits n).length :=
  (Nat.length_toDigits_le_iff (by decide) (List.length_pos_iff.mpr (digits_ne_nil n))).mp
    (Nat.le_refl _)

/-- The first digit of a number other than zero counts. -/
lemma pow_le_of_ne_zero {n : Nat} (h : n ≠ 0) : 10 ^ ((digits n).length - 1) ≤ n := by
  obtain hle | hlt := Nat.lt_or_ge 1 (digits n).length
  · by_contra hlow
    have hshort := (Nat.length_toDigits_le_iff (by decide) (by omega)).mpr (Nat.not_le.mp hlow)
    change (digits n).length ≤ _ at hshort
    omega
  · rw [Nat.sub_eq_zero_of_le hlt]
    exact Nat.one_le_iff_ne_zero.mpr h

end Digits

namespace Decimal

/-- Behind a number that has reached the bound no digit counts. -/
lemma foldl_exponent_of_le {n : Nat} (h : exponentBound ≤ n) (ds : List Char) :
    ds.foldl (fun n c => if n < exponentBound then 10 * n + Digits.value c else n) n = n := by
  induction ds with
  | nil => rfl
  | cons c ds ih => rw [List.foldl_cons, if_neg (Nat.not_lt.mpr h), ih]

/-- Further digits do not make a number smaller. -/
lemma le_foldl_digits (n : Nat) (ds : List Char) :
    n ≤ ds.foldl (fun n c => 10 * n + Digits.value c) n := by
  induction ds generalizing n with
  | nil => exact Nat.le_refl n
  | cons c ds ih =>
    rw [List.foldl_cons]
    exact Nat.le_trans (by omega) (ih _)

/-- The digits of an exponent are read as what they denote, or else what is read has reached the
bound, and what is denoted goes beyond it by a digit. -/
lemma exponentOf_eq_or_le (ds : List Char) :
    exponentOf ds = Digits.ofDigits ds ∨
      exponentBound ≤ exponentOf ds ∧ 10 * exponentOf ds ≤ Digits.ofDigits ds := by
  rw [exponentOf, Digits.ofDigits]
  -- the reading goes on from any number that both have reached
  generalize 0 = n
  induction ds generalizing n with
  | nil => exact .inl rfl
  | cons c ds ih =>
    rw [List.foldl_cons, List.foldl_cons]
    by_cases h : n < exponentBound
    · rw [if_pos h]
      exact ih _
    · have hle := Nat.not_lt.mp h
      rw [if_neg h, foldl_exponent_of_le hle]
      have hmore := le_foldl_digits (10 * n + Digits.value c) ds
      exact .inr ⟨hle, by omega⟩

/-- The digits of a small exponent are read as what they denote. -/
lemma exponentOf_eq {ds : List Char} (h : Digits.ofDigits ds < 10 * exponentBound) :
    exponentOf ds = Digits.ofDigits ds := by
  obtain heq | ⟨hbound, hle⟩ := exponentOf_eq_or_le ds
  · exact heq
  · omega

end Decimal

end Stencil

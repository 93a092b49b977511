import Stencil.Proofs.Number.Digits
import Stencil.Proofs.Number.Nearest

/-!
# Whole numbers

An integer below `2 ^ 53` in magnitude is a number without rounding: `Number.whole?` finds it again
(`whole?_ofInt`). Its numeral, a minus where it is negative and its digits, denotes the number that
the integer rounds to, however large it is (`ofDecimal_digits`).
-/

namespace Stencil

namespace Magnitude

/-- A natural number below `2 ^ 53` is the value of a magnitude. -/
lemma exists_units_eq {n : Nat} (h : n < 2 ^ 53) : ∃ m : Magnitude, m.units = n <<< 1074 := by
  obtain rfl | hpos := Nat.eq_zero_or_pos n
  · exact ⟨.zero, by decide +kernel⟩
  -- With `k` bits after the first one, the significand is `a` in the row of `k + 1022`.
  obtain ⟨k, hk⟩ : ∃ k, n.log2 = k := ⟨_, rfl⟩
  have hlow : 2 ^ k ≤ n := by
    rw [← hk]
    exact Nat.log2_self_le hpos.ne'
  have hhigh : n < 2 ^ (k + 1) := by
    rw [← hk]
    exact Nat.lt_log2_self
  have hk52 : k ≤ 52 := by
    by_contra hlt
    have : 2 ^ 53 ≤ 2 ^ k := Nat.pow_le_pow_right (by decide) (by omega)
    omega
  obtain ⟨a, ha⟩ : ∃ a, n * 2 ^ (52 - k) = a := ⟨_, rfl⟩
  have hscaled : n <<< 1074 = a * 2 ^ (k + 1022) := by
    rw [Nat.shiftLeft_eq, ← ha, Nat.mul_assoc, ← Nat.pow_add,
      show 52 - k + (k + 1022) = 1074 by omega]
  have halow : 2 ^ 52 ≤ a := by
    calc 2 ^ 52 = 2 ^ k * 2 ^ (52 - k) := by rw [← Nat.pow_add, show k + (52 - k) = 52 by omega]
      _ ≤ n * 2 ^ (52 - k) := Nat.mul_le_mul_right _ hlow
      _ = a := ha
  have hahigh : a < 2 ^ 53 := by
    calc a = n * 2 ^ (52 - k) := ha.symm
      _ < 2 ^ (k + 1) * 2 ^ (52 - k) := Nat.mul_lt_mul_of_pos_right hhigh (Nat.two_pow_pos _)
      _ = 2 ^ 53 := by rw [← Nat.pow_add, show k + 1 + (52 - k) = 53 by omega]
  have hrank : (k + 1022) <<< 52 + a < count := by
    rw [Nat.shiftLeft_eq, count, Nat.shiftLeft_eq]
    omega
  refine ⟨⟨(k + 1022) <<< 52 + a, hrank⟩, ?_⟩
  rw [hscaled]
  exact Rank.units_row (.inr halow) hahigh.le

/-- A natural number below `2 ^ 53` is the very value of the magnitude nearest to it. -/
lemma nearest?_natural {n : Nat} (h : n < 2 ^ 53) :
    ∃ m : Magnitude, nearest? n 1 = some m ∧ m.units = n <<< 1074 := by
  obtain ⟨m, hm⟩ := exists_units_eq h
  have hvalue : (n / (1 : Nat) : ℚ) = Rank.value m.rank := by
    rw [Rank.value, Rank.units_magnitude, hm, Rank.shiftLeft_eq_mul_one, Nat.cast_mul,
      mul_div_cancel_right₀ _ Rank.one_pos.ne', Nat.cast_one, div_one]
  have hnearest : Number.IsNearest false (n / (1 : Nat)) (.ofMagnitude? false (nearest? n 1)) :=
    Number.isNearest_ofMagnitude? n Nat.one_pos
  rw [hvalue] at hnearest
  have hread := hnearest.unique (Number.isNearest_value m)
  exact ⟨m, Number.ofMagnitude?_eq_finite_iff.mp hread, hm⟩

end Magnitude

namespace Number

/-- The integer that a number is, if it is one below `2 ^ 53` in magnitude. The negative zero is
none. -/
def whole? : Number → Option Int
  | .finite x =>
    let n : Int := (x.magnitude.units >>> 1074 : Nat)
    let i := if x.negative then -n else n
    if ofInt i = .finite x ∧ i.natAbs < 2 ^ 53 then some i else none
  | _ => none

/-- What is found is an integer below `2 ^ 53` in magnitude, whose number it is. -/
lemma whole?_eq_some {x : Number} {i : Int} (h : x.whole? = some i) :
    ofInt i = x ∧ i.natAbs < 2 ^ 53 := by
  cases x with
  | nan => cases h
  | infinity negative => cases h
  | finite x =>
    rw [whole?, Option.ite_none_right_eq_some] at h
    obtain ⟨hx, hi⟩ := h
    obtain rfl := Option.some.inj hi
    exact hx

/-- Every integer below `2 ^ 53` in magnitude is found again in its number. -/
theorem whole?_ofInt {i : Int} (h : i.natAbs < 2 ^ 53) : (ofInt i).whole? = some i := by
  obtain ⟨m, hm, hunits⟩ := Magnitude.nearest?_natural h
  have hx : ofInt i = .finite ⟨decide (i < 0), m⟩ := by rw [ofInt, hm, ofMagnitude?]
  have hi : (if decide (i < 0) = true then -((m.units >>> 1074 : Nat) : Int)
      else ((m.units >>> 1074 : Nat) : Int)) = i := by
    rw [hunits, Nat.shiftLeft_shiftRight]
    split
    · case isTrue hneg =>
      have := of_decide_eq_true hneg
      omega
    · case isFalse hneg =>
      have := of_decide_eq_false (Bool.eq_false_iff.mpr hneg)
      omega
  rw [hx, whole?]
  dsimp only
  rw [hi, if_pos ⟨hx, h⟩]

end Number

/-- The numeral of an integer. -/
def numeralOf (i : Int) : List Char :=
  (if i < 0 then ['-'] else []) ++ Digits.digits i.natAbs

/-- The digits of an integer, with its sign, denote what the integer rounds to. -/
lemma Number.ofDecimal_digits (i : Int) :
    Number.ofDecimal (decide (i < 0)) (.ofParts (Digits.digits i.natAbs) [] 0) =
      Number.ofInt i := by
  have hd : Decimal.ofParts (Digits.digits i.natAbs) [] 0 = ⟨i.natAbs, 0⟩ := by
    rw [Decimal.ofParts, List.append_nil, Digits.ofLongDigits_digits]
    rfl
  unfold ofDecimal ofInt
  congr 1
  rw [hd]
  unfold Decimal.nearest?
  by_cases hzero : i.natAbs = 0
  · rw [if_pos hzero, hzero]
    decide +kernel
  · rw [if_neg hzero, if_neg (show ¬(400 : Int) < 0 by decide), if_neg (by dsimp only; omega)]
    unfold Decimal.num Decimal.den
    exact congrArg (Magnitude.nearest? · 1) (Nat.mul_one _)

end Stencil

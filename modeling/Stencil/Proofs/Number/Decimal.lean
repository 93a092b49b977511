import Mathlib.Algebra.Order.Field.Power
import Stencil.Number.Notation
import Stencil.Proofs.Number.Nearest

/-!
# The number nearest to a decimal

Reading a decimal gives the number nearest to its value, also where the exponent alone settles the
answer (`Number.isNearest_ofDecimal`). So two decimals of one value are read as one number
(`Number.ofDecimal_congr`). The decimal that is found for a magnitude, by search or by its exact
expansion, is read as this magnitude again (`Magnitude.nearest?_shortest`).
-/

namespace Stencil

namespace Decimal

/-- The value of a decimal. -/
def value (d : Decimal) : ℚ :=
  d.coefficient * 10 ^ d.exponent

/-- A decimal is not negative. -/
lemma value_nonneg (d : Decimal) : 0 ≤ d.value := by
  unfold value
  positivity

/-- The denominator of a decimal is positive. -/
lemma den_pos (d : Decimal) : 0 < d.den :=
  Nat.pow_pos (by decide)

/-- A decimal is the fraction of its numerator and its denominator. -/
lemma num_div_den (d : Decimal) : (d.num / d.den : ℚ) = d.value := by
  obtain ⟨coefficient, exponent⟩ := d
  rw [num, den, value]
  obtain ⟨k, rfl | rfl⟩ := exponent.eq_nat_or_neg
  · simp
  · simp [div_eq_mul_inv]

end Decimal

namespace Rank

/-- The first rank that is no magnitude has the value `2 ^ 1024`. -/
lemma value_count_le : value Magnitude.count ≤ 10 ^ 400 := by
  have hunits : units Magnitude.count ≤ 10 ^ 400 * one := by decide +kernel
  rw [value, div_le_iff₀ one_pos]
  exact_mod_cast hunits

/-- The first positive rank is greater than `2 ^ -1075`. -/
lemma lt_value_one : 2 * (10 : ℚ) ^ (-400 : ℤ) < value 1 := by
  have hunits : units 1 = 1 := rfl
  have hone : 2 * one < 10 ^ 400 := by decide +kernel
  have hten : (0 : ℚ) < 10 ^ (400 : ℤ) := by positivity
  rw [value, hunits, Nat.cast_one, lt_div_iff₀ one_pos, zpow_neg, mul_right_comm,
    ← div_eq_mul_inv, div_lt_one hten]
  exact_mod_cast hone

end Rank

namespace Decimal

/-- A decimal that begins more than 400 places in front of the point is larger than all magnitudes.
-/
lemma value_count_le {d : Decimal} {k : Nat} (hcoefficient : 10 ^ k ≤ d.coefficient)
    (hlarge : 400 ≤ d.exponent + k) : Rank.value Magnitude.count ≤ d.value := by
  have hten : (0 : ℚ) < 10 ^ d.exponent := by positivity
  calc Rank.value Magnitude.count ≤ 10 ^ 400 := Rank.value_count_le
    _ ≤ (10 : ℚ) ^ (d.exponent + k) := by
      rw [← zpow_natCast]
      exact zpow_le_zpow_right₀ (by norm_num) hlarge
    _ = 10 ^ k * (10 : ℚ) ^ d.exponent := by
      rw [zpow_add₀ (by norm_num), zpow_natCast, mul_comm]
    _ ≤ d.value := mul_le_mul_of_nonneg_right (by exact_mod_cast hcoefficient) hten.le

/-- A decimal that begins more than 400 places behind the point is nearest to zero. -/
lemma value_lt_of_lt_pow {d : Decimal} {k : Nat} (hcoefficient : d.coefficient < 10 ^ k)
    (hsmall : d.exponent + k ≤ -400) : 2 * d.value < Rank.value 1 := by
  have hten : (0 : ℚ) < 10 ^ d.exponent := by positivity
  have hvalue : d.value < 10 ^ (-400 : ℤ) := by
    calc d.value < 10 ^ k * (10 : ℚ) ^ d.exponent :=
          mul_lt_mul_of_pos_right (by exact_mod_cast hcoefficient) hten
      _ = (10 : ℚ) ^ (d.exponent + k) := by
          rw [zpow_add₀ (by norm_num), zpow_natCast, mul_comm]
      _ ≤ 10 ^ (-400 : ℤ) := zpow_le_zpow_right₀ (by norm_num) hsmall
  linarith [Rank.lt_value_one]

/-- So is a decimal with an exponent far below the size of its coefficient. -/
lemma value_lt_of_lt_log2 {d : Decimal} (hsmall : d.exponent < -(1200 + d.coefficient.log2)) :
    2 * d.value < Rank.value 1 := by
  have hcoefficient : d.coefficient < 10 ^ (d.coefficient.log2 + 1) :=
    Nat.lt_of_lt_of_le Nat.lt_log2_self (Nat.pow_le_pow_left (by decide) _)
  exact value_lt_of_lt_pow hcoefficient (by push_cast; omega)

end Decimal

namespace Number

variable {negative : Bool}

/-- What is at least the first rank that is no magnitude is read as infinite. -/
lemma isNearest_infinity {q : ℚ} {n d : Nat} (hd : 0 < d) (hq : (n / d : ℚ) = q)
    (hlarge : Rank.value Magnitude.count ≤ q) : IsNearest negative q (.infinity negative) := by
  have hnearest := Rank.nearest_ofFraction n hd
  rw [hq] at hnearest
  refine ⟨_, hnearest, ?_⟩
  rw [dif_neg (not_lt.mpr (hnearest.le_of_value_le hlarge))]

/-- What is less than half of the least positive magnitude is read as zero. -/
lemma isNearest_zero {q : ℚ} (hq : 0 ≤ q) (hsmall : 2 * q < Rank.value 1) :
    IsNearest negative q (.finite ⟨negative, .zero⟩) :=
  ⟨0, Rank.nearest_zero hq hsmall, rfl⟩

/-- Reading a decimal gives the number nearest to it. -/
theorem isNearest_ofDecimal (negative : Bool) (d : Decimal) :
    IsNearest negative d.value (ofDecimal negative d) := by
  unfold ofDecimal Decimal.nearest?
  split
  · case isTrue hzero =>
    have hvalue : d.value = Rank.value 0 := by
      rw [Decimal.value, hzero, Nat.cast_zero, zero_mul, Rank.value_zero]
    rw [hvalue]
    exact isNearest_value .zero
  · case isFalse hpos =>
    split
    · case isTrue hlarge =>
      have hone : 10 ^ 0 ≤ d.coefficient := Nat.one_le_iff_ne_zero.mpr hpos
      exact isNearest_infinity d.den_pos d.num_div_den (d.value_count_le hone (by omega))
    · split
      · case isTrue hsmall => exact isNearest_zero d.value_nonneg (d.value_lt_of_lt_log2 hsmall)
      · rw [← d.num_div_den]
        exact isNearest_ofMagnitude? d.num d.den_pos

/-- Decimals of one value are read as one number. -/
lemma ofDecimal_congr {d e : Decimal} (h : d.value = e.value) :
    ofDecimal negative d = ofDecimal negative e := by
  have hd := isNearest_ofDecimal negative d
  rw [h] at hd
  exact hd.unique (isNearest_ofDecimal negative e)

/-- A decimal is read as a finite number just if that has the nearest magnitude. -/
lemma ofDecimal_eq_finite_iff {d : Decimal} {m : Magnitude} :
    ofDecimal negative d = .finite ⟨negative, m⟩ ↔ d.nearest? = some m :=
  ofMagnitude?_eq_finite_iff

end Number

namespace Magnitude

/-- A decimal that is a fraction by a power of two. -/
lemma value_eq_div {d : Decimal} {n k : Nat} (hcoefficient : d.coefficient = n * Nat.pow 5 k)
    (hexponent : d.exponent = -k) : d.value = n / (1 <<< k : Nat) := by
  have hten : (10 : ℚ) ^ k = 2 ^ k * 5 ^ k := by
    rw [← mul_pow]
    norm_num
  have hfive : (5 : ℚ) ^ k ≠ 0 := pow_ne_zero _ (by norm_num)
  change d.coefficient = n * 5 ^ k at hcoefficient
  rw [Decimal.value, hcoefficient, hexponent, zpow_neg, zpow_natCast, ← div_eq_mul_inv, hten,
    Nat.one_shiftLeft]
  push_cast
  exact mul_div_mul_right _ _ hfive

/-- The exact expansion of a magnitude has its value. -/
lemma value_exact (m : Magnitude) : m.exact.value = Rank.value m.rank := by
  have hplaces : (-1074 : Int) = -(1074 : Nat) := rfl
  rw [exact, hplaces, Rank.value, Rank.units_magnitude, Rank.one]
  generalize 1074 = k
  exact value_eq_div rfl rfl

/-- A magnitude is the one nearest to its own value. -/
lemma nearest?_exact (m : Magnitude) : m.exact.nearest? = some m := by
  have h := Number.isNearest_ofDecimal false m.exact
  rw [value_exact] at h
  exact Number.ofDecimal_eq_finite_iff.mp (h.unique (Number.isNearest_value m))

/-- A decimal that is found on a grid reads back. -/
lemma nearest?_of_onGrid? {m : Magnitude} {e : Int} {d : Decimal} (h : m.onGrid? e = some d) :
    d.nearest? = some m := by
  unfold onGrid? at h
  dsimp only at h
  split at h
  · case isTrue hupper =>
    cases h
    exact hupper.1
  · split at h
    · case isTrue hlower =>
      cases h
      exact hlower
    · cases h

/-- The decimal that is found for a magnitude reads back. -/
theorem nearest?_shortest (m : Magnitude) : m.shortest.nearest? = some m := by
  unfold shortest
  dsimp only
  cases hfound : (List.range 17).findSome? fun n : Nat => m.onGrid? (m.leadingExponent - n) with
  | none => exact nearest?_exact m
  | some d =>
    obtain ⟨n, -, hn⟩ := List.exists_of_findSome?_eq_some hfound
    exact nearest?_of_onGrid? hn

end Magnitude

end Stencil

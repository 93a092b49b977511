import Mathlib.Algebra.Order.Field.Basic
import Mathlib.Data.Rat.Defs
import Mathlib.Order.Monotone.Basic
import Mathlib.Tactic.FieldSimp
import Mathlib.Tactic.Lemma
import Mathlib.Tactic.Linarith
import Mathlib.Tactic.Positivity
import Mathlib.Tactic.Ring
import Stencil.Number.Rounding

/-!
# Nearest numbers

The magnitudes are the first of the ranks: the rows of `2 ^ 52` ranks with one step each could go on
without end, and `Rank.value` gives the value of every rank, so that values ascend with ranks
(`Rank.units_strictMono`). A rank is nearest to a fraction if none is nearer, and it is the even one
of two that are equally near (`Rank.Nearest`). There is one such rank (`Rank.Nearest.unique`), and
the library computes it (`Rank.nearest_ofFraction`): in the row of the fraction, ranks count steps,
and what is in a row below lies on the other side of a rank of this row.

The number nearest to a fraction with a sign has the nearest rank, and is infinite if that is no
magnitude (`Number.IsNearest`).
-/

namespace Stencil

namespace Rank

/-- The row of a rank. -/
def row (rank : Nat) : Nat :=
  (rank >>> 52) - 1

/-- The value of a rank in multiples of `2⁻¹⁰⁷⁴`. -/
def units (rank : Nat) : Nat :=
  (rank - (row rank <<< 52)) <<< row rank

/-- How many units make one. -/
def one : Nat :=
  1 <<< 1074

/-- One has units. -/
lemma one_pos : (0 : ℚ) < one := by
  rw [one, Nat.one_shiftLeft]
  exact Nat.cast_pos.mpr (Nat.two_pow_pos 1074)

/-- A natural number in units is a multiple of one. -/
lemma shiftLeft_eq_mul_one (n : Nat) : n <<< 1074 = n * one := by
  rw [one, Nat.one_shiftLeft, Nat.shiftLeft_eq]

/-- The value of a rank. -/
def value (rank : Nat) : ℚ :=
  units rank / one

/-- The value of a magnitude is that of its rank. -/
lemma units_magnitude (m : Magnitude) : units m.rank = m.units := rfl

/-- A rank in a row is the multiple of its step that it counts. This holds also of the first rank
after the row. -/
lemma units_row {row a : Nat} (hlow : row = 0 ∨ 2 ^ 52 ≤ a) (hhigh : a ≤ 2 ^ 53) :
    units (row <<< 52 + a) = a * 2 ^ row := by
  obtain hlt | rfl := Nat.lt_or_eq_of_le hhigh
  · have hrow : Rank.row (row <<< 52 + a) = row := by
      rw [Rank.row, Nat.shiftRight_eq_div_pow, Nat.shiftLeft_eq]
      omega
    rw [units, hrow, Nat.add_sub_cancel_left, Nat.shiftLeft_eq]
  · have hrow : Rank.row (row <<< 52 + 2 ^ 53) = row + 1 := by
      rw [Rank.row, Nat.shiftRight_eq_div_pow, Nat.shiftLeft_eq]
      omega
    have hrest : row <<< 52 + 2 ^ 53 - (row + 1) <<< 52 = 2 ^ 52 := by
      rw [Nat.shiftLeft_eq, Nat.shiftLeft_eq]
      omega
    rw [units, hrow, hrest, Nat.shiftLeft_eq, ← Nat.pow_add, ← Nat.pow_add,
      show 52 + (row + 1) = 53 + row by omega]

/-- Every rank is in a row. -/
lemma exists_row (rank : Nat) :
    ∃ row a, (row = 0 ∨ 2 ^ 52 ≤ a) ∧ a < 2 ^ 53 ∧ rank = row <<< 52 + a := by
  refine ⟨row rank, rank - row rank <<< 52, ?_, ?_, ?_⟩
  all_goals
    rw [row, Nat.shiftRight_eq_div_pow, Nat.shiftLeft_eq]
    omega

/-- Values in units ascend with ranks. -/
lemma units_strictMono : StrictMono units := by
  refine strictMono_nat_of_lt_succ fun rank => ?_
  obtain ⟨row, a, hlow, hhigh, rfl⟩ := exists_row rank
  rw [Nat.add_assoc, units_row hlow hhigh.le, units_row (hlow.imp_right Nat.le_succ_of_le) hhigh]
  exact Nat.mul_lt_mul_of_pos_right (Nat.lt_succ_self a) (Nat.two_pow_pos row)

/-- Values ascend with ranks. -/
lemma value_strictMono : StrictMono value := by
  intro r s h
  have hunits : (units r : ℚ) < units s := Nat.cast_lt.mpr (units_strictMono h)
  exact div_lt_div_of_pos_right hunits one_pos

/-- The first rank is zero. -/
@[simp] lemma value_zero : value 0 = 0 := by
  have hunits : units 0 = 0 := rfl
  rw [value, hunits, Nat.cast_zero, zero_div]

/-- The rank is nearest to `q`, and it is even if another one is as near. -/
structure Nearest (q : ℚ) (rank : Nat) : Prop where
  le : ∀ r, |value rank - q| ≤ |value r - q|
  even : ∀ r, r ≠ rank → |value r - q| = |value rank - q| → rank % 2 = 0

/-- A point as near to one number as to a greater one is nearer to all that lie between them. -/
lemma abs_sub_lt_of_between {a b c q : ℚ} (hab : a < b) (hbc : b < c) (h : |a - q| = |c - q|) :
    |b - q| < |a - q| := by
  have hmiddle : a - q = -(c - q) := by
    obtain heq | heq := abs_eq_abs.mp h
    · linarith
    · exact heq
  have ha : |a - q| = q - a := by
    rw [abs_of_neg (by linarith), neg_sub]
  rw [ha, abs_lt]
  constructor
  · linarith
  · linarith

/-- No two ranks are nearest to the same point. -/
lemma Nearest.unique {q : ℚ} {r s : Nat} (hr : Nearest q r) (hs : Nearest q s) : r = s := by
  wlog hlt : r < s generalizing r s
  · obtain heq | hgt := Nat.eq_or_lt_of_not_lt hlt
    · exact heq
    · exact (this hs hr hgt).symm
  -- two even ranks have another one between them
  have hdist : |value r - q| = |value s - q| := le_antisymm (hr.le s) (hs.le r)
  have hreven := hr.even s hlt.ne' hdist.symm
  have hseven := hs.even r hlt.ne hdist
  have hbetween : |value (r + 1) - q| < |value r - q| :=
    abs_sub_lt_of_between (value_strictMono r.lt_succ_self)
      (value_strictMono (show r + 1 < s by omega)) hdist
  exact absurd (hr.le (r + 1)) (not_le.mpr hbetween)

/-- A rank is nearest to its own value. -/
lemma nearest_value (rank : Nat) : Nearest (value rank) rank := by
  refine ⟨fun r => ?_, fun r hne h => ?_⟩
  · rw [sub_self, abs_zero]
    exact abs_nonneg _
  · rw [sub_self, abs_zero, abs_eq_zero, sub_eq_zero] at h
    exact absurd (value_strictMono.injective h) hne

/-- What is less than half of the least positive value is nearest to zero. -/
lemma nearest_zero {q : ℚ} (hq : 0 ≤ q) (hsmall : 2 * q < value 1) : Nearest q 0 := by
  have hfar : ∀ r, r ≠ 0 → |value 0 - q| < |value r - q| := by
    intro r hr
    have hle : value 1 ≤ value r := value_strictMono.monotone (Nat.one_le_iff_ne_zero.mpr hr)
    rw [value_zero, zero_sub, abs_neg, abs_of_nonneg hq, abs_of_pos (by linarith)]
    linarith
  refine ⟨fun r => ?_, fun r hr h => absurd h (hfar r hr).ne'⟩
  obtain rfl | hr := Nat.eq_zero_or_pos r
  · exact le_refl _
  · exact (hfar r hr.ne').le

/-- A rank nearest to what no lower rank exceeds is not below it. -/
lemma Nearest.le_of_value_le {q : ℚ} {r rank : Nat} (h : Nearest q rank) (hr : value r ≤ q) :
    r ≤ rank := by
  by_contra hlt
  have hvalue := value_strictMono (not_le.mp hlt)
  have hle := h.le r
  rw [abs_of_nonpos (by linarith), abs_of_nonpos (by linarith)] at hle
  linarith

/-- A rank nearest to what no higher rank falls short of is not above it. -/
lemma Nearest.le_of_le_value {q : ℚ} {r rank : Nat} (h : Nearest q rank) (hr : q ≤ value r) :
    rank ≤ r := by
  by_contra hlt
  have hvalue := value_strictMono (not_le.mp hlt)
  have hle := h.le r
  rw [abs_of_nonneg (by linarith), abs_of_nonneg (by linarith)] at hle
  linarith

/-- What is rounded to a rank or below it is no more than its value, unless it is rounded to this
very rank. -/
lemma Nearest.le_iff {q : ℚ} {r rank : Nat} (h : Nearest q rank) :
    rank ≤ r ↔ rank = r ∨ q ≤ value r := by
  constructor
  · intro hle
    obtain heq | hlt := Nat.eq_or_lt_of_le hle
    · exact .inl heq
    · right
      by_contra hgt
      exact absurd (h.le_of_value_le (not_le.mp hgt).le) (Nat.not_le.mpr hlt)
  · rintro (rfl | hq)
    · exact le_refl _
    · exact h.le_of_le_value hq

/-- The whole number is nearest to `w`, and it is even if another one is as near. -/
def NearestWhole (w : ℚ) (a : Nat) : Prop :=
  |(a : ℚ) - w| < 1 / 2 ∨ |(a : ℚ) - w| = 1 / 2 ∧ a % 2 = 0

section
variable {a b : Nat} {w : ℚ}

/-- The nearest whole number is off by no more than a half. -/
lemma NearestWhole.off_le (h : NearestWhole w a) : |(a : ℚ) - w| ≤ 1 / 2 :=
  h.elim le_of_lt fun h => h.1.le

/-- All other whole numbers are off by at least a half. -/
lemma NearestWhole.half_le (h : NearestWhole w a) (hne : b ≠ a) : 1 / 2 ≤ |(b : ℚ) - w| := by
  have hone : (1 : ℚ) ≤ |(b : ℚ) - a| := by
    have hint : (1 : ℤ) ≤ |(b : ℤ) - a| := Int.one_le_abs (by omega)
    exact_mod_cast hint
  have htriangle := abs_sub_le (b : ℚ) w a
  rw [abs_sub_comm w] at htriangle
  linarith [h.off_le]

/-- No whole number is nearer than the nearest one. -/
lemma NearestWhole.le (h : NearestWhole w a) (b : Nat) : |(a : ℚ) - w| ≤ |(b : ℚ) - w| := by
  by_cases hne : b = a
  · rw [hne]
  · exact h.off_le.trans (h.half_le hne)

end

/-- The library rounds a quotient to the nearest whole number. -/
lemma nearestWhole_roundDiv (n : Nat) {d : Nat} (hd : 0 < d) :
    NearestWhole (n / d) (roundDiv n d) := by
  have hdq : (0 : ℚ) < d := Nat.cast_pos.mpr hd
  have hsplit : (n : ℚ) / d = (n / d : Nat) + (n % d : Nat) / (d : ℚ) := by
    rw [div_eq_iff hdq.ne', add_mul, div_mul_cancel₀ _ hdq.ne']
    exact_mod_cast (Nat.div_add_mod' n d).symm
  have hrest : (0 : ℚ) ≤ (n % d : Nat) / (d : ℚ) := by positivity
  have hrest' : ((n % d : Nat) : ℚ) / d < 1 := by
    rw [div_lt_one hdq]
    exact_mod_cast Nat.mod_lt n hd
  rw [NearestWhole, roundDiv, hsplit]
  split
  · case isTrue hlt =>
    have hhalf : ((n % d : Nat) : ℚ) / d < 1 / 2 := by
      rw [div_lt_div_iff₀ hdq two_pos, one_mul, mul_comm]
      exact_mod_cast hlt
    left
    rw [sub_add_cancel_left, abs_neg, abs_of_nonneg hrest]
    exact hhalf
  · split
    · case isTrue hlt =>
      have hhalf : 1 / 2 < ((n % d : Nat) : ℚ) / d := by
        rw [div_lt_div_iff₀ two_pos hdq, one_mul, mul_comm]
        exact_mod_cast hlt
      left
      rw [Nat.cast_add_one, add_sub_add_left_eq_sub, abs_of_pos (by linarith)]
      linarith
    · case isFalse hnot hnot' =>
      have hhalf : ((n % d : Nat) : ℚ) / d = 1 / 2 := by
        rw [div_eq_div_iff hdq.ne' two_ne_zero, one_mul, mul_comm]
        exact_mod_cast (show 2 * (n % d) = d by omega)
      right
      rw [hhalf, Nat.cast_add, add_sub_add_left_eq_sub]
      refine ⟨?_, by omega⟩
      obtain heven | hodd := Nat.mod_two_eq_zero_or_one (n / d)
      · rw [heven]
        norm_num
      · rw [hodd]
        norm_num

/-- How many steps of a row a point is from zero. -/
def steps (q : ℚ) (row : Nat) : ℚ :=
  q * one / 2 ^ row

/-- The point lies between the values of the row. -/
structure InRow (q : ℚ) (row : Nat) : Prop where
  le : row = 0 ∨ 2 ^ 52 ≤ steps q row
  lt : steps q row < 2 ^ 53

/-- Distances of values are distances counted in steps. -/
lemma value_sub (q : ℚ) (row r : Nat) :
    value r - q = (units r / 2 ^ row - steps q row) * (2 ^ row / one) := by
  have hone := one_pos.ne'
  have hpow : (2 : ℚ) ^ row ≠ 0 := pow_ne_zero _ two_ne_zero
  rw [value, steps]
  field_simp

/-- Seen from a row, a rank is a number of steps of the row, or it lies below the row. -/
lemma units_eq_mul_or_lt (row r : Nat) :
    (∃ b : Nat, (units r : ℚ) / 2 ^ row = b) ∨ row ≠ 0 ∧ (units r : ℚ) / 2 ^ row < 2 ^ 52 := by
  have hpow : (0 : ℚ) < 2 ^ row := by positivity
  obtain ⟨row', b, hlow, hhigh, rfl⟩ := exists_row r
  rw [units_row hlow hhigh.le]
  by_cases hle : row ≤ row'
  · left
    refine ⟨b * 2 ^ (row' - row), ?_⟩
    rw [div_eq_iff hpow.ne']
    norm_cast
    rw [Nat.mul_assoc, ← Nat.pow_add, Nat.sub_add_cancel hle]
  · right
    refine ⟨by omega, ?_⟩
    rw [div_lt_iff₀ hpow]
    norm_cast
    calc b * 2 ^ row' < 2 ^ 53 * 2 ^ row' :=
          Nat.mul_lt_mul_of_pos_right hhigh (Nat.two_pow_pos row')
      _ = 2 ^ 52 * 2 ^ (row' + 1) := by
          rw [← Nat.pow_add, ← Nat.pow_add, show 53 + row' = 52 + (row' + 1) by omega]
      _ ≤ 2 ^ 52 * 2 ^ row :=
          Nat.mul_le_mul_left _ (Nat.pow_le_pow_right two_pos (not_le.mp hle))

/-- In the row of a point, the nearest rank is found by rounding the number of steps. -/
lemma InRow.nearest {q : ℚ} {row a : Nat} (h : InRow q row) (ha : NearestWhole (steps q row) a) :
    Nearest q (row <<< 52 + a) := by
  have hpow : (0 : ℚ) < 2 ^ row := by positivity
  have hscale : (0 : ℚ) < 2 ^ row / one := div_pos hpow one_pos
  have hhigh : a ≤ 2 ^ 53 := by
    have hlt : (a : ℚ) < 2 ^ 53 + 1 := by linarith [(abs_le.mp ha.off_le).2, h.lt]
    exact Nat.lt_succ_iff.mp (by exact_mod_cast hlt)
  have hlow : row = 0 ∨ 2 ^ 52 ≤ a := by
    refine h.le.imp_right fun hle => ?_
    have hlt : (2 : ℚ) ^ 52 < a + 1 := by linarith [(abs_le.mp ha.off_le).1]
    exact Nat.lt_succ_iff.mp (by exact_mod_cast hlt)
  have hself : (units (row <<< 52 + a) : ℚ) / 2 ^ row = a := by
    rw [units_row hlow hhigh, Nat.cast_mul, Nat.cast_pow, Nat.cast_ofNat]
    exact mul_div_cancel_right₀ _ hpow.ne'
  -- another rank is another number of steps, or the first rank of the row is nearer
  have hother : ∀ r, r ≠ row <<< 52 + a →
      (∃ b : Nat, b ≠ a ∧ (units r : ℚ) / 2 ^ row = b) ∨
        |(a : ℚ) - steps q row| < |(units r : ℚ) / 2 ^ row - steps q row| := by
    intro r hr
    obtain ⟨b, hb⟩ | ⟨hrow, hbelow⟩ := units_eq_mul_or_lt row r
    · left
      refine ⟨b, ?_, hb⟩
      rintro rfl
      have hcast := (div_left_inj' hpow.ne').mp (hb.trans hself.symm)
      exact hr (units_strictMono.injective (Nat.cast_injective hcast))
    · right
      have hle := h.le.resolve_left hrow
      have hfirst := ha.le (2 ^ 52)
      rw [Nat.cast_pow, Nat.cast_ofNat, abs_sub_comm ((2 : ℚ) ^ 52),
        abs_of_nonneg (sub_nonneg.mpr hle)] at hfirst
      calc |(a : ℚ) - steps q row| ≤ steps q row - 2 ^ 52 := hfirst
        _ < steps q row - units r / 2 ^ row := sub_lt_sub_left hbelow _
        _ ≤ |(units r : ℚ) / 2 ^ row - steps q row| := by
          rw [abs_sub_comm]
          exact le_abs_self _
  refine ⟨fun r => ?_, fun r hr hdist => ?_⟩
  · rw [value_sub q row, value_sub q row, abs_mul, abs_mul, hself]
    refine mul_le_mul_of_nonneg_right ?_ (abs_nonneg _)
    by_cases hr : r = row <<< 52 + a
    · rw [hr, hself]
    · obtain ⟨b, -, hunits⟩ | hlt := hother r hr
      · rw [hunits]
        exact ha.le b
      · exact hlt.le
  · rw [value_sub q row, value_sub q row, abs_mul, abs_mul, hself] at hdist
    have heq := mul_right_cancel₀ (abs_pos.mpr hscale.ne').ne' hdist
    obtain ⟨b, hb, hunits⟩ | hlt := hother r hr
    · rw [hunits] at heq
      obtain hless | ⟨-, heven⟩ := id ha
      · linarith [ha.half_le hb]
      · rw [Nat.shiftLeft_eq]
        omega
    · exact absurd heq hlt.ne'

/-- The row of a fraction is found by the size of its whole part in units. -/
lemma inRow_log2 (n : Nat) {d : Nat} (hd : 0 < d) :
    InRow (n / d) ((n <<< 1074 / d).log2 - 52) := by
  obtain ⟨whole, hwhole⟩ : ∃ whole, n <<< 1074 / d = whole := ⟨_, rfl⟩
  obtain ⟨row, hrow⟩ : ∃ row, whole.log2 - 52 = row := ⟨_, rfl⟩
  have hdq : (0 : ℚ) < d := Nat.cast_pos.mpr hd
  have hpow : (0 : ℚ) < 2 ^ row := by positivity
  rw [hwhole, hrow]
  refine ⟨?_, ?_⟩
  · -- a row after the first one is entered only when the whole part has reached it
    refine or_iff_not_imp_left.mpr fun hpos => ?_
    have hne : whole ≠ 0 := by
      rintro rfl
      rw [Nat.log2_zero] at hrow
      omega
    have hlow : 2 ^ 52 * 2 ^ row ≤ whole := by
      rw [← Nat.pow_add, show 52 + row = whole.log2 by omega]
      exact Nat.log2_self_le hne
    rw [← hwhole, Nat.le_div_iff_mul_le hd, shiftLeft_eq_mul_one] at hlow
    rw [steps, le_div_iff₀ hpow, div_mul_eq_mul_div, le_div_iff₀ hdq]
    exact_mod_cast hlow
  · have hhigh : whole < 2 ^ 53 * 2 ^ row := by
      rw [← Nat.pow_add]
      refine Nat.lt_of_lt_of_le Nat.lt_log2_self (Nat.pow_le_pow_right two_pos ?_)
      omega
    rw [← hwhole, Nat.div_lt_iff_lt_mul hd, shiftLeft_eq_mul_one] at hhigh
    rw [steps, div_lt_iff₀ hpow, div_mul_eq_mul_div, div_lt_iff₀ hdq]
    exact_mod_cast hhigh

/-- The rank that the library finds for a fraction. -/
def ofFraction (n d : Nat) : Nat :=
  let scaled := n <<< 1074
  let shift := (scaled / d).log2 - 52
  (shift <<< 52) + roundDiv scaled (d <<< shift)

/-- The library finds the nearest rank. -/
theorem nearest_ofFraction (n : Nat) {d : Nat} (hd : 0 < d) :
    Nearest (n / d) (ofFraction n d) := by
  refine (inRow_log2 n hd).nearest ?_
  obtain ⟨row, hrow⟩ : ∃ row, (n <<< 1074 / d).log2 - 52 = row := ⟨_, rfl⟩
  have hsteps : steps (n / d) row = (n <<< 1074 : Nat) / (d <<< row : Nat) := by
    rw [steps, shiftLeft_eq_mul_one, Nat.shiftLeft_eq, Nat.cast_mul, Nat.cast_mul, Nat.cast_pow,
      Nat.cast_ofNat, div_mul_eq_mul_div, div_div]
  rw [hrow, hsteps]
  refine nearestWhole_roundDiv _ ?_
  rw [Nat.shiftLeft_eq]
  exact Nat.mul_pos hd (Nat.two_pow_pos row)

end Rank

namespace Number

/-- The number with the nearest rank and a sign; it is infinite if no magnitude has this rank. -/
def IsNearest (negative : Bool) (q : ℚ) (x : Number) : Prop :=
  ∃ rank, Rank.Nearest q rank ∧
    x = if h : rank < Magnitude.count then .finite ⟨negative, ⟨rank, h⟩⟩ else .infinity negative

section
variable {negative : Bool} {q : ℚ}

/-- There is one nearest number. -/
lemma IsNearest.unique {x y : Number} (hx : IsNearest negative q x) (hy : IsNearest negative q y) :
    x = y := by
  obtain ⟨r, hr, rfl⟩ := hx
  obtain ⟨s, hs, rfl⟩ := hy
  rw [hr.unique hs]

/-- A finite number is nearest to its own value. -/
lemma isNearest_value (m : Magnitude) :
    IsNearest negative (Rank.value m.rank) (.finite ⟨negative, m⟩) := by
  refine ⟨m.rank, Rank.nearest_value m.rank, ?_⟩
  rw [dif_pos m.rank_lt]

/-- The magnitude that the library finds is that of the nearest number. -/
lemma isNearest_ofMagnitude? (n : Nat) {d : Nat} (hd : 0 < d) :
    IsNearest negative (n / d) (ofMagnitude? negative (Magnitude.nearest? n d)) := by
  refine ⟨Rank.ofFraction n d, Rank.nearest_ofFraction n hd, ?_⟩
  change ofMagnitude? negative
    (if h : Rank.ofFraction n d < Magnitude.count then some ⟨Rank.ofFraction n d, h⟩ else none) = _
  split
  · rfl
  · rfl

/-- A number is finite if there is a magnitude for it. -/
lemma ofMagnitude?_eq_finite_iff {r : Option Magnitude} {m : Magnitude} :
    ofMagnitude? negative r = .finite ⟨negative, m⟩ ↔ r = some m := by
  cases r with
  | none => simp [ofMagnitude?]
  | some r => simp [ofMagnitude?]

end

end Number

end Stencil

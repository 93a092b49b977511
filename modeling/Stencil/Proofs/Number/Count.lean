import Mathlib.Algebra.Order.Floor.Semifield
import Mathlib.Data.ENat.Basic
import Mathlib.Data.Rat.Floor
import Mathlib.Tactic.Lemma
import Stencil.Proofs.Number.Whole

/-!
# Numbers as counts

As a count a number stands for its floor, but for no less than zero and for all of what there is if
it is infinite (`Number.wholeCount`). The library counts in 64 bits, and its counts are these as far
as they fit (`toCount_eq_wholeCount`).

Whether a natural number is at most some number is asked of its own number, the nearest one. This is
the same question asked of the count, with two exceptions (`ofNat_lessOrSame_iff`). A number below
zero counts as zero, which is not at most that number. And a natural number may be rounded down to
the number with which it is compared; this takes one that is not below `2 ^ 53`
(`wholeCount_ofNat`).
-/

namespace Stencil

/-- Shifting up is adjoint to shifting down. -/
lemma shiftLeft_le_iff {k m n : Nat} : n <<< k ≤ m ↔ n ≤ m >>> k := by
  rw [Nat.shiftLeft_eq, Nat.shiftRight_eq_div_pow, Nat.le_div_iff_mul_le (Nat.two_pow_pos k)]

/-- The exact value of a finite number. -/
def Finite.toRat (x : Finite) : ℚ :=
  (if x.negative then -1 else 1) * (x.magnitude.units / (2 ^ 1074 : Nat))

namespace Number

/-- What a number stands for as a count: its floor, and zero if that is below zero. -/
def wholeCount : Number → ℕ∞
  | nan => 0
  | infinity negative => if negative then 0 else ⊤
  | finite x => ⌊x.toRat⌋₊

section
variable {m : Magnitude}

/-- A number without a sign is not below zero. -/
lemma toRat_nonneg : 0 ≤ Finite.toRat ⟨false, m⟩ := by
  rw [Finite.toRat, if_neg Bool.false_ne_true, one_mul]
  exact div_nonneg (Nat.cast_nonneg _) (Nat.cast_nonneg _)

/-- The sign negates the exact value. -/
lemma toRat_negative : Finite.toRat ⟨true, m⟩ = -Finite.toRat ⟨false, m⟩ := by
  rw [Finite.toRat, Finite.toRat, if_pos rfl, if_neg Bool.false_ne_true, one_mul, neg_one_mul]

/-- The floor of a magnitude is found by shifting its units. -/
lemma floor_toRat : ⌊Finite.toRat ⟨false, m⟩⌋₊ = m.units >>> 1074 := by
  rw [Finite.toRat, if_neg Bool.false_ne_true, one_mul, Nat.floor_div_eq_div,
    Nat.shiftRight_eq_div_pow]

/-- A number without a sign counts as its floor. -/
lemma wholeCount_positive : wholeCount (.finite ⟨false, m⟩) = (m.units >>> 1074 : Nat) := by
  rw [wholeCount, floor_toRat]

/-- A number with a minus counts as zero. -/
lemma wholeCount_negative : wholeCount (.finite ⟨true, m⟩) = 0 := by
  rw [wholeCount, toRat_negative, Nat.floor_of_nonpos (neg_nonpos.mpr toRat_nonneg)]
  rfl

end

/-- A count of the library is what the number stands for, if that fits. -/
lemma toCount_eq_wholeCount {c : Number} (h : c.wholeCount ≤ maxCount) :
    (c.toCount : ℕ∞) = c.wholeCount := by
  cases c with
  | nan => rfl
  | infinity negative =>
    cases negative with
    | true => rfl
    | false => exact absurd (top_le_iff.mp h) (ENat.natCast_ne_top maxCount)
  | finite x =>
    obtain ⟨negative, m⟩ := x
    cases negative with
    | true =>
      rw [wholeCount_negative]
      rfl
    | false =>
      rw [wholeCount_positive, ENat.natCast_le_natCast] at h
      rw [wholeCount_positive, toCount, if_neg Bool.false_ne_true, Nat.min_eq_left h]

/-- The finite numbers below zero are those that are negative and not zero. -/
lemma finite_less_zero_iff {x : Finite} :
    (finite x).less .zero = true ↔ x.negative = true ∧ x.magnitude.rank ≠ 0 := by
  have hzero : (zero.place? : Option Int) = some 0 := rfl
  rw [less, related, hzero, place?]
  obtain ⟨negative, m⟩ := x
  cases negative with
  | true => simp [Nat.pos_iff_ne_zero]
  | false => simp

/-- A natural number is no more than a magnitude if it is no more than its count. -/
lemma le_value_iff {m : Magnitude} {n : Nat} :
    (n : ℚ) ≤ Rank.value m.rank ↔ n ≤ m.units >>> 1074 := by
  rw [Rank.value, Rank.units_magnitude, le_div_iff₀ Rank.one_pos, ← Nat.cast_mul, Nat.cast_le,
    ← Rank.shiftLeft_eq_mul_one, shiftLeft_le_iff]

/-- The number of a natural number has the nearest rank. -/
lemma isNearest_ofNat (n : Nat) : IsNearest false n (ofNat n) := by
  have hnearest : IsNearest false (n / (1 : Nat)) (ofNat n) :=
    isNearest_ofMagnitude? n Nat.one_pos
  rwa [Nat.cast_one, div_one] at hnearest

/-- The number of a natural number has no sign. -/
lemma ofNat_unsigned (n : Nat) : ofNat n = infinity false ∨ ∃ m, ofNat n = finite ⟨false, m⟩ := by
  rw [ofNat]
  cases Magnitude.nearest? n 1 with
  | none => exact .inl rfl
  | some m => exact .inr ⟨m, rfl⟩

/-- The place of the number of a natural number is the nearest rank, as far as there are
magnitudes. -/
lemma place?_ofNat {n rank : Nat} (h : Rank.Nearest n rank) :
    (ofNat n).place? = some ((min rank Magnitude.count : Nat) : Int) := by
  obtain ⟨r, hr, hofNat⟩ := isNearest_ofNat n
  obtain rfl := h.unique hr
  rw [hofNat]
  split
  · case isTrue hlt =>
    rw [Nat.min_eq_left hlt.le]
    rfl
  · case isFalse hge =>
    rw [Nat.min_eq_right (Nat.not_lt.mp hge)]
    rfl

/-- A finite number without a sign is that of a natural number if it has the nearest rank. -/
lemma finite_eq_ofNat_iff {m : Magnitude} {n rank : Nat} (h : Rank.Nearest n rank) :
    finite ⟨false, m⟩ = ofNat n ↔ rank = m.rank := by
  obtain ⟨r, hr, hofNat⟩ := isNearest_ofNat n
  obtain rfl := h.unique hr
  rw [hofNat]
  split
  · simp [Magnitude.ext_iff, eq_comm]
  · case isFalse hge =>
    have hne : rank ≠ m.rank := fun h => hge (h ▸ m.rank_lt)
    simp [hne]

/-- Only zero is rounded to zero. -/
lemma nearest_eq_zero_iff {n rank : Nat} (h : Rank.Nearest n rank) : rank = 0 ↔ n = 0 := by
  constructor
  · intro hzero
    by_contra hn
    have hone : Rank.value 1 ≤ n := by
      have hunits : Rank.units 1 = 1 := rfl
      have hn1 : (1 : ℚ) ≤ n := Nat.one_le_cast.mpr (Nat.one_le_iff_ne_zero.mpr hn)
      have hbig : (1 : ℚ) ≤ Rank.one := Nat.one_le_cast.mpr (Nat.cast_pos.mp Rank.one_pos)
      rw [Rank.value, hunits, Nat.cast_one]
      exact (div_le_one_of_le₀ hbig Rank.one_pos.le).trans hn1
    have hle := h.le_of_value_le hone
    omega
  · rintro rfl
    rw [Nat.cast_zero] at h
    exact Nat.le_zero.mp (h.le_of_le_value Rank.value_zero.ge)

/-- With a finite number, the number of a natural number is compared as
`ofNat_lessOrSame_iff` says. -/
lemma ofNat_lessOrSame_finite_iff {n : Nat} {x : Finite} :
    (ofNat n).lessOrSame (finite x) = true ↔
      finite x = ofNat n ∨
        n ≤ (finite x).wholeCount ∧ ¬(n = 0 ∧ (finite x).less .zero = true) := by
  obtain ⟨rank, hrank, -⟩ := isNearest_ofNat n
  rw [lessOrSame, related, place?_ofNat hrank, finite_less_zero_iff]
  obtain ⟨negative, m⟩ := x
  have hlt := m.rank_lt
  cases negative with
  | true =>
    have htest : ((min rank Magnitude.count : Nat) : Int) ≤ -(m.rank : Int) ↔
        n = 0 ∧ m.rank = 0 := by
      rw [← nearest_eq_zero_iff hrank]
      omega
    have hne : finite ⟨true, m⟩ ≠ ofNat n := by
      intro heq
      have hunsigned := ofNat_unsigned n
      rw [← heq] at hunsigned
      simp at hunsigned
    have hle : (n : ℕ∞) ≤ 0 ↔ n = 0 := by rw [nonpos_iff_eq_zero, Nat.cast_eq_zero]
    refine decide_eq_true_iff.trans (htest.trans ?_)
    rw [or_iff_right hne, wholeCount_negative, hle]
    exact and_congr_right fun hn => by simp [hn]
  | false =>
    have htest : ((min rank Magnitude.count : Nat) : Int) ≤ m.rank ↔ rank ≤ m.rank := by omega
    refine decide_eq_true_iff.trans (htest.trans ?_)
    rw [finite_eq_ofNat_iff hrank, wholeCount_positive, ENat.natCast_le_natCast, hrank.le_iff,
      le_value_iff]
    exact or_congr_right (iff_self_and.mpr fun _ h => Bool.false_ne_true h.2.1)

/-- The number of a natural number is compared like the natural number itself, which is no more than
another number if it is no more than its count, unless that is below zero. But a number to which it
is rounded is never below it. -/
lemma ofNat_lessOrSame_iff {c : Number} (hc : c ≠ nan) (n : Nat) :
    (ofNat n).lessOrSame c = true ↔
      c = ofNat n ∨ n ≤ c.wholeCount ∧ ¬(n = 0 ∧ c.less .zero = true) := by
  obtain ⟨rank, hrank, -⟩ := isNearest_ofNat n
  cases c with
  | nan => exact absurd rfl hc
  | infinity negative =>
    rw [lessOrSame, related, place?_ofNat hrank]
    cases negative with
    | true =>
      have hcount : Magnitude.count ≠ 0 := by decide
      have htest : ¬((min rank Magnitude.count : Nat) : Int) ≤ -(Magnitude.count : Int) := by omega
      have hless : (infinity true).less .zero = true := by decide
      refine iff_of_false (fun h => htest (of_decide_eq_true h)) ?_
      rintro (heq | ⟨hzero, hnot⟩)
      · have hunsigned := ofNat_unsigned n
        rw [← heq] at hunsigned
        simp at hunsigned
      · exact hnot ⟨Nat.cast_eq_zero.mp (nonpos_iff_eq_zero.mp hzero), hless⟩
    | false =>
      have htest : ((min rank Magnitude.count : Nat) : Int) ≤ Magnitude.count := by omega
      have hless : (infinity false).less .zero = false := by decide
      refine iff_of_true (decide_eq_true htest) (.inr ⟨le_top, ?_⟩)
      rw [hless]
      exact fun h => Bool.false_ne_true h.2
  | finite x => exact ofNat_lessOrSame_finite_iff

/-- Below `2 ^ 53` a natural number is its own number, so that its count is the same again. -/
lemma wholeCount_ofNat {n : Nat} (h : n < 2 ^ 53) : (ofNat n).wholeCount = n := by
  obtain ⟨m, hm, hunits⟩ := Magnitude.nearest?_natural h
  rw [ofNat, hm, ofMagnitude?, wholeCount_positive, hunits, Nat.shiftLeft_shiftRight]

end Number

end Stencil

import Mathlib.Algebra.Order.Ring.Nat
import Mathlib.Tactic.Lemma
import Stencil.Number.Notation

/-!
# The sign of zero

Of the two zeros one is negative, which only the bits of a number show. `unsignZero` drops this
sign. A function of numbers that takes both zeros alike does not see it (`apply_unsignZero`), and
the order, the text and the counts of numbers are such functions. Numbers are equal as templates see
it just if they are one number up to the sign of zero, and not `nan` (`same_iff`).
-/

namespace Stencil.Number

universe u

/-- Zero with the negative sign. -/
def negativeZero : Number := .finite ⟨true, .zero⟩

/-- The number, with the positive sign if it is zero. -/
def unsignZero (x : Number) : Number :=
  if x = negativeZero then zero else x

/-- A function that takes both zeros alike does not see the sign of zero. -/
lemma apply_unsignZero {α : Sort u} {f : Number → α} (h : f negativeZero = f zero) (x : Number) :
    f x.unsignZero = f x := by
  unfold unsignZero
  split
  · case isTrue hx => rw [hx, h]
  · rfl

/-- The sign of zero is dropped once. -/
lemma unsignZero_unsignZero (x : Number) : x.unsignZero.unsignZero = x.unsignZero :=
  apply_unsignZero rfl x

/-- The place of a number does not depend on the sign of zero. -/
lemma place?_unsignZero (x : Number) : x.unsignZero.place? = x.place? :=
  apply_unsignZero rfl x

/-- Whether a number is zero does not depend on its sign. -/
lemma isNonzero_unsignZero (x : Number) : x.unsignZero.isNonzero = x.isNonzero :=
  apply_unsignZero rfl x

/-- The text of a number does not show the sign of zero. -/
lemma text_unsignZero (x : Number) : x.unsignZero.text = x.text :=
  apply_unsignZero rfl x

/-- The count of a number does not depend on the sign of zero. -/
lemma toCount_unsignZero (x : Number) : x.unsignZero.toCount = x.toCount := by
  have hunits : Magnitude.zero.units = 0 := rfl
  refine apply_unsignZero ?_ x
  simp [negativeZero, zero, toCount, hunits]

/-- The order of numbers does not see the sign of a zero on the right. -/
lemma lessOrSame_unsignZero (x y : Number) : x.lessOrSame y.unsignZero = x.lessOrSame y := by
  rw [lessOrSame, related, place?_unsignZero]
  rfl

/-- Without the sign of zero the same numbers are no numbers. -/
lemma unsignZero_eq_nan_iff {x : Number} : x.unsignZero = nan ↔ x = nan :=
  iff_of_eq (@apply_unsignZero Prop (· = nan) (by simp [negativeZero, zero]) x)

/-- An integer has one absolute value, and one sign unless it is zero. -/
lemma signed_eq {s t : Bool} {a b : Nat}
    (h : (if s then -(a : Int) else a) = if t then -(b : Int) else b) :
    a = b ∧ (s = t ∨ a = 0) := by
  cases s <;> cases t <;> simp at h ⊢ <;> omega

/-- Numbers at one place are one number up to the sign of zero. -/
lemma unsignZero_eq_of_place? {x y : Number} (h : x.place? = y.place?) :
    x.unsignZero = y.unsignZero := by
  have hcount : Magnitude.count ≠ 0 := by decide
  cases x with
  | nan =>
    cases y with
    | nan => rfl
    | infinity _ => cases h
    | finite _ => cases h
  | infinity s =>
    cases y with
    | nan => cases h
    | infinity t =>
      obtain ⟨-, rfl | hzero⟩ := signed_eq (Option.some_inj.mp h)
      · rfl
      · exact absurd hzero hcount
    | finite y =>
      obtain ⟨hrank, -⟩ := signed_eq (Option.some_inj.mp h)
      exact absurd hrank y.magnitude.rank_lt.ne'
  | finite x =>
    cases y with
    | nan => cases h
    | infinity t =>
      obtain ⟨hrank, -⟩ := signed_eq (Option.some_inj.mp h)
      exact absurd hrank x.magnitude.rank_lt.ne
    | finite y =>
      obtain ⟨s, m⟩ := x
      obtain ⟨t, n⟩ := y
      obtain ⟨hrank, hsign⟩ := signed_eq (Option.some_inj.mp h)
      obtain rfl : m = n := Magnitude.ext hrank
      obtain rfl | hzero := hsign
      · rfl
      · obtain rfl : m = .zero := Magnitude.ext hzero
        cases s <;> cases t <;> rfl

/-- Numbers are equal as templates see it if they are one number up to the sign of zero, but `nan`
is equal to nothing. -/
lemma same_iff {x y : Number} : x.same y = true ↔ x.unsignZero = y.unsignZero ∧ x ≠ nan := by
  have hplaces : x.same y = true ↔ x.place? = y.place? ∧ x ≠ nan := by
    cases x <;> cases y <;> simp [same, related, place?]
  rw [hplaces]
  refine and_congr_left fun _ => ⟨unsignZero_eq_of_place?, fun h => ?_⟩
  rw [← place?_unsignZero x, h, place?_unsignZero]

/-- Tests of the places of two numbers do not see the sign of zero. -/
lemma related_unsignZero (test : Int → Int → Bool) (x y : Number) :
    related test x.unsignZero y.unsignZero = related test x y := by
  rw [related, place?_unsignZero, place?_unsignZero]
  rfl

end Stencil.Number

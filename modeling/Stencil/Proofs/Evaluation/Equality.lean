import Stencil.Proofs.Evaluation.Logic
import Stencil.Proofs.Rendering.ZeroSign
import Stencil.Proofs.Value.Singleton

/-!
# Equality in templates

The built-in `eq` compares two values part by part, down to their numbers. It is symmetric and
transitive, but not an equivalence: a value that holds `nan` is equal to nothing, not even to
itself. What is equal counts the same as truth, as text and as a number.

All of this is read off one description: values are equal if they are alike, that is, if they differ
only in the signs of zeros, and hold no `nan` (`Value.same_iff`). To be alike is an equivalence that
truth, text and number do not see through (`Value.congruence_alike`), and alike values hold a `nan`
together or not at all.
-/

namespace Stencil

namespace Value

variable {u v w : Value}

/-- Values are equal if they are one value up to the signs of zeros, without a `nan` in it. -/
lemma same_iff_alike : u.same v = true ↔ u.Alike v ∧ u.holdsNan = false :=
  same_iff u v

/-- Alike values hold a `nan` together or not at all. -/
lemma Alike.holdsNan_eq (h : u.Alike v) : u.holdsNan = v.holdsNan :=
  h.apply holdsNan_unsignZeros

/-- The equality of values is symmetric. -/
lemma same_comm (u v : Value) : u.same v = v.same u := by
  have hswap {u v : Value} (h : u.same v = true) : v.same u = true := by
    obtain ⟨halike, hnan⟩ := same_iff_alike.mp h
    exact same_iff_alike.mpr ⟨Eq.symm halike, halike.holdsNan_eq ▸ hnan⟩
  exact Bool.eq_iff_iff.mpr ⟨hswap, hswap⟩

/-- The equality of values is transitive. -/
lemma same_trans (huv : u.same v = true) (hvw : v.same w = true) : u.same w = true := by
  obtain ⟨huv, hnan⟩ := same_iff_alike.mp huv
  obtain ⟨hvw, -⟩ := same_iff_alike.mp hvw
  exact same_iff_alike.mpr ⟨Eq.trans huv hvw, hnan⟩

/-- A value is equal to itself just if there is no `nan` in it. -/
lemma same_self_iff : u.same u = true ↔ u.holdsNan = false :=
  same_iff_alike.trans (and_iff_right rfl)

/-- What is equal counts the same as truth, as text and as a number. -/
lemma coercions_of_same (h : u.same v = true) :
    u.isTruthy = v.isTruthy ∧ u.text = v.text ∧ u.toNumber.Agrees v.toNumber := by
  have halike : u.Alike v := (same_iff_alike.mp h).1
  exact ⟨congruence_alike.isTruthy_eq halike, congruence_alike.text_eq halike,
    Number.agrees_iff.mpr (congruence_alike.number_eq halike)⟩

end Value

/-- Let a registry have the built-ins `eq` and `ne` under their names. What they give for two
expressions depends on the values of these alone, and `ne` gives the opposite of `eq`. The
comparison of values is symmetric and transitive, it holds of a value and itself just if there is no
`nan` anywhere in the value, and values that are equal are true together, have one text, and have
numbers that are equal or both `nan`. -/
theorem evaluate_equality {registry : Registry}
    (h : ∀ b ∈ [Builtin.equal, .unequal], registry.Keeps b) (scope : Scope) :
    (∀ a b : Expr,
      (evaluate registry scope (.call "eq" [a, b])).value =
          .bool ((evaluate registry scope a).value.same (evaluate registry scope b).value) ∧
        (evaluate registry scope (.call "ne" [a, b])).value =
          .bool !(evaluate registry scope a).value.same (evaluate registry scope b).value) ∧
      (∀ u v : Value, u.same v = v.same u) ∧
      (∀ u v w : Value, u.same v = true → v.same w = true → u.same w = true) ∧
      (∀ u : Value, u.same u = true ↔ u.holdsNan = false) ∧
      ∀ u v : Value, u.same v = true →
        u.isTruthy = v.isTruthy ∧ u.text = v.text ∧ u.toNumber.Agrees v.toNumber := by
  refine ⟨fun a b => ?_, Value.same_comm, fun _ _ _ => Value.same_trans,
    fun _ => Value.same_self_iff, fun _ _ => Value.coercions_of_same⟩
  have hequal : evaluate registry scope (.call "eq" [a, b]) =
      Builtin.equal.run [evaluate registry scope a, evaluate registry scope b] :=
    (h .equal (by simp)).evaluate_eq scope (Nat.le_refl 2)
  have hunequal : evaluate registry scope (.call "ne" [a, b]) =
      Builtin.unequal.run [evaluate registry scope a, evaluate registry scope b] :=
    (h .unequal (by simp)).evaluate_eq scope (Nat.le_refl 2)
  exact ⟨congrArg Traced.value hequal, congrArg Traced.value hunequal⟩

/-- An array with a zero and a field inside. -/
def signedRow (negative : Bool) : Value :=
  .array [.number (.finite ⟨negative, .zero⟩), .object [("a", .string "x")]]

/-- Arrays that differ in the sign of a zero are equal, and print alike. -/
theorem evaluate_equality_of_signedRow :
    (∀ b ∈ [Builtin.equal, .unequal], Registry.standard.Keeps b) ∧
      (evaluate .standard (.ofData [])
          (.call "eq" [.literal (signedRow true), .literal (signedRow false)])).value =
        .bool true ∧
      (evaluate .standard (.ofData [])
          (.call "ne" [.literal (signedRow true), .literal (signedRow false)])).value =
        .bool false ∧
      (signedRow true).text = (signedRow false).text := by
  have hkeeps : ∀ b ∈ [Builtin.equal, .unequal], Registry.standard.Keeps b :=
    fun b _ => Registry.keeps_standard b
  obtain ⟨hcalls, -, -, -, hcoercions⟩ := evaluate_equality hkeeps (.ofData [])
  obtain ⟨hequal, hunequal⟩ := hcalls (.literal (signedRow true)) (.literal (signedRow false))
  have hsame : (signedRow true).same (signedRow false) = true := rfl
  exact ⟨hkeeps, hequal, hunequal, (hcoercions _ _ hsame).2.1⟩

end Stencil

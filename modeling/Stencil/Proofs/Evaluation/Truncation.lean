import Stencil.Proofs.Evaluation.Operands
import Stencil.Proofs.Number.Count

/-!
# Cutting texts

`truncate` takes a text, a count and, if there is a third operand, a suffix in the place of three
dots. Whether the text is too long is asked of the number itself, but the cut is made after as many
characters as the number stands for. The two agree on fractions and infinities, and below zero for
every text that has a character to lose. The empty text is left: it has no more characters than any
count, but no number below zero is at least its length, so the suffix is put behind it.

Main statement: the value of `truncate`, in terms of what the number stands for
(`evaluate_truncate`).
-/

namespace Stencil

/-- A text that has more characters than a count is cut after that many, and a suffix is put behind
it. -/
def shortened (s : String) (count : ℕ∞) (suffix : String) : String :=
  if s.length ≤ count then s else String.ofList (s.toList.take count.toNat) ++ suffix

/-- What a number stands for is a count of the library if it is less than one. -/
lemma Number.toCount_of_wholeCount_lt {c : Number} {n : Nat} (hlt : c.wholeCount < n)
    (hfits : n ≤ maxCount) : c.toCount = c.wholeCount.toNat := by
  have hle : c.wholeCount ≤ (maxCount : ℕ∞) :=
    (hlt.trans_le (ENat.natCast_le_natCast.mpr hfits)).le
  rw [← toCount_eq_wholeCount hle, ENat.toNat_natCast]

namespace Builtin

/-- With no number for a count, a text is left as it is. -/
lemma truncated_nan (s suffix : String) : truncated s .nan suffix = s :=
  if_pos (.inl rfl)

/-- A text whose length is rounded to the count is left as it is. -/
lemma truncated_ofNat (s suffix : String) :
    truncated s (Number.ofNat s.length) suffix = s := by
  have hne : Number.ofNat s.length ≠ .nan := by
    obtain h | ⟨m, h⟩ := Number.ofNat_unsigned s.length
    · rw [h]
      exact nofun
    · rw [h]
      exact nofun
  exact if_pos (.inr ((Number.ofNat_lessOrSame_iff hne _).mpr (.inl rfl)))

/-- A number below zero puts the suffix behind the empty text. -/
lemma truncated_empty {c : Number} (hc : c ≠ .nan) (hless : c.less .zero = true)
    (suffix : String) : truncated "" c suffix = suffix := by
  have htest : ¬(c = .nan ∨ (Number.ofNat "".length).lessOrSame c = true) := by
    rw [Number.ofNat_lessOrSame_iff hc]
    rintro (hnan | rfl | ⟨-, hzero⟩)
    · exact hc hnan
    · exact absurd hless (by decide +kernel)
    · exact hzero ⟨rfl, hless⟩
  rw [truncated, if_neg htest, String.toList_empty, List.take_nil, String.ofList_nil,
    String.empty_append]

/-- In all other cases a text is cut to the count that the number stands for. -/
lemma truncated_eq {s : String} {c : Number} (hfits : s.length ≤ Number.maxCount) (hc : c ≠ .nan)
    (hrounded : ¬(2 ^ 53 ≤ s.length ∧ c = .ofNat s.length))
    (hless : ¬(s = "" ∧ c.less .zero = true)) (suffix : String) :
    truncated s c suffix = shortened s c.wholeCount suffix := by
  have hexact : c = .ofNat s.length → s.length ≤ c.wholeCount := by
    intro h
    have hshort : s.length < 2 ^ 53 := not_le.mp fun hlong => hrounded ⟨hlong, h⟩
    rw [h, Number.wholeCount_ofNat hshort]
  have htest : c = .nan ∨ (Number.ofNat s.length).lessOrSame c = true ↔
      s.length ≤ c.wholeCount := by
    rw [Number.ofNat_lessOrSame_iff hc, String.length_eq_zero_iff, or_iff_right hc,
      and_iff_left hless]
    exact or_iff_right_of_imp hexact
  rw [truncated, shortened]
  refine if_ctx_congr htest (fun _ => rfl) fun hlong => ?_
  rw [Number.toCount_of_wholeCount_lt (not_le.mp hlong) hfits]

end Builtin

/-- The value of `truncate`, for a text of at most `maxCount` characters, as every text in memory
is. A count that is no number leaves the text as it is, and any other one cuts it to what the number
stands for, the empty text and a number below zero apart: this text is left as it is and still gets
the suffix. A length from `2 ^ 53` on is compared after rounding, and a text whose length is rounded
to the count is left as it is. -/
theorem evaluate_truncate {registry : Registry} {scope : Scope} {c : Call} {text count : Expr}
    {more : List Expr} (hget : registry.get? c.name = some (.builtin .truncate))
    (hoperands : c.operands = text :: count :: more)
    (hfits : (evaluate registry scope text).value.text.length ≤ Number.maxCount) :
    let s := (evaluate registry scope text).value.text
    let n := (evaluate registry scope count).value.toNumber
    let suffix := more.head?.elim "..." fun e => (evaluate registry scope e).value.text
    (evaluate registry scope c.expr).value = .string
      (if n = .nan ∨ 2 ^ 53 ≤ s.length ∧ n = .ofNat s.length then s
      else if s = "" ∧ n.less .zero = true then suffix
      else shortened s n.wholeCount suffix) := by
  intro s n suffix
  have hrun : (evaluate registry scope c.expr).value = .string (Builtin.truncated s n suffix) := by
    rw [evaluate_expr, Registry.call_eq, hget, hoperands]
    cases more with
    | nil => rfl
    | cons e rest =>
      have hargs : ¬rest.length + 3 < Builtin.truncate.minArgs := by
        rw [Builtin.minArgs]
        omega
      have hsuffix : 2 < rest.length + 3 := by omega
      simp [Builtin.run, Builtin.textOperand, Builtin.numberOperand, Builtin.operand, hargs,
        hsuffix, s, n, suffix]
  rw [hrun]
  split_ifs with hwhole hempty
  · obtain hnan | ⟨-, hlength⟩ := hwhole
    · rw [hnan, Builtin.truncated_nan]
    · rw [hlength, Builtin.truncated_ofNat]
  · obtain ⟨hnan, -⟩ := not_or.mp hwhole
    rw [hempty.1, Builtin.truncated_empty hnan hempty.2]
  · obtain ⟨hnan, hrounded⟩ := not_or.mp hwhole
    rw [Builtin.truncated_eq hfits hnan hrounded hempty]

/-- One and a half stands for one character, which is all that is left in front of the suffix. -/
theorem evaluate_truncate_of_fraction :
    Registry.standard.get? "truncate" = some (.builtin .truncate) ∧
      "stencil".length ≤ Number.maxCount ∧
      (evaluate .standard (.ofData []) (.pipe (.literal (.string "stencil")) "truncate"
        [.literal (.string "1.5"), .literal (.string "!")])).value = .string "s!" := by
  have hget : Registry.standard.get? "truncate" = some (.builtin .truncate) := rfl
  have hfits : "stencil".length ≤ Number.maxCount := by decide
  have hnumber : (Value.string "1.5").toNumber =
      .finite ⟨false, ⟨4609434218613702656, by decide⟩⟩ := by
    decide +kernel
  have hcount : (Value.string "1.5").toNumber.wholeCount = (1 : Nat) := by
    rw [hnumber, Number.wholeCount_positive]
    exact congrArg Nat.cast (by decide +kernel)
  refine ⟨hget, hfits, Eq.trans (evaluate_truncate
    (c := .piped (.literal (.string "stencil")) "truncate"
      [.literal (.string "1.5"), .literal (.string "!")])
    hget rfl hfits) (congrArg Value.string ?_)⟩
  have hcut : ¬((Value.string "1.5").toNumber = .nan ∨ 2 ^ 53 ≤ "stencil".length ∧
      (Value.string "1.5").toNumber = .ofNat "stencil".length) := by
    rintro (hnan | ⟨hlong, -⟩)
    · rw [hnumber] at hnan
      cases hnan
    · exact absurd hlong (by decide)
  have hlong : ¬("stencil".length : ℕ∞) ≤ (1 : Nat) := by
    rw [ENat.natCast_le_natCast]
    decide
  calc _ = shortened "stencil" (Value.string "1.5").toNumber.wholeCount "!" := by
        rw [evaluate_literal]
        exact (if_neg hcut).trans (if_neg fun h => absurd h.1 (by decide))
    _ = "s!" := by
        rw [hcount, shortened, if_neg hlong]
        rfl

/-- A number below zero stands for no characters, which are enough for the empty text; still the
suffix is put behind it. -/
theorem truncate_lengthens_empty :
    Number.ofInt (-1) ≠ .nan ∧ shortened "" (Number.ofInt (-1)).wholeCount "..." = "" ∧
      (evaluate .standard (.ofData []) (.call "truncate"
        [.literal (.string ""), .literal (.number (.ofInt (-1)))])).value.text = "..." :=
  ⟨by decide +kernel, if_pos zero_le, by decide +kernel⟩

end Stencil

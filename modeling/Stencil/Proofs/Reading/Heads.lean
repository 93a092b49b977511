import Mathlib.Tactic.Lemma
import Stencil.Reader

/-!
# Heads of texts

What a reader does with a class of characters, or with a mark, depends on the first character of
what is left: `HeadNot p s` says that it is not in the class `p`. Up to such a text, and no further,
a reader takes what is all of the class.
-/

namespace Stencil

open Reader

/-- A character of words is no blank. -/
lemma isBlank_of_isWordChar {c : Char} (h : Text.isWordChar c = true) : Text.isBlank c = false := by
  have hrange : (48 ≤ c.toNat ∧ c.toNat ≤ 57) ∨ (65 ≤ c.toNat ∧ c.toNat ≤ 90) ∨ c.toNat = 95 ∨
      (97 ≤ c.toNat ∧ c.toNat ≤ 122) := by
    change (decide ('A'.val ≤ c.val ∧ c.val ≤ 'Z'.val) ||
      ('a'.val ≤ c.val && c.val ≤ 'z'.val) || ('0'.val ≤ c.val && c.val ≤ '9'.val) ||
      c == '_') = true at h
    simp only [Bool.or_eq_true, Bool.and_eq_true, decide_eq_true_eq, beq_iff_eq,
      UInt32.le_iff_toNat_le] at h
    obtain ((⟨h1, h2⟩ | ⟨h1, h2⟩) | ⟨h1, h2⟩) | rfl := h
    · exact .inr (.inl ⟨h1, h2⟩)
    · exact .inr (.inr (.inr ⟨h1, h2⟩))
    · exact .inl ⟨h1, h2⟩
    · exact .inr (.inr (.inl rfl))
  unfold Text.isBlank
  simp only [Bool.or_eq_false_iff, Bool.and_eq_false_iff, decide_eq_false_iff_not,
    beq_eq_false_iff_ne]
  omega

/-- Digits are characters of words. -/
lemma isWordChar_of_isDigit {c : Char} (h : c.isDigit = true) : Text.isWordChar c = true := by
  rw [Text.isWordChar, Char.isAlphanum, h, Bool.or_true, Bool.true_or]

/-- A blank is no character of words. -/
lemma isWordChar_of_isBlank {c : Char} (h : Text.isBlank c = true) : Text.isWordChar c = false := by
  cases hc : Text.isWordChar c with
  | false => rfl
  | true =>
    rw [isBlank_of_isWordChar hc] at h
    contradiction

/-- A blank is none of the characters that are not. -/
lemma beq_of_isBlank {c d : Char} (h : Text.isBlank c = true) (hd : Text.isBlank d = false) :
    (c == d) = false := by
  refine beq_eq_false_iff_ne.mpr ?_
  rintro rfl
  rw [h] at hd
  contradiction

/-- The head of a text, if there is one, lies outside a class. -/
def HeadNot (p : Char → Bool) (s : List Char) : Prop :=
  ∀ c ∈ s.head?, p c = false

section
variable {p : Char → Bool} {c : Char} {s : List Char}

/-- A text with a first character begins with this one. -/
lemma headNot_cons (h : p c = false) : HeadNot p (c :: s) := by
  intro d hd
  obtain rfl := Option.mem_some.mp hd
  exact h

/-- What a text does not begin with, in terms of its first character. -/
lemma headNot_iff : HeadNot p s ↔ ∀ c t, s = c :: t → p c = false := by
  cases s with
  | nil => simp [HeadNot]
  | cons d s => simp [HeadNot]

/-- A text from which a class has been dropped begins outside it. -/
lemma headNot_dropWhile (p : Char → Bool) (s : List Char) : HeadNot p (s.dropWhile p) := by
  intro c hc
  have hnot := List.head?_dropWhile_not p s
  rw [Option.mem_def.mp hc] at hnot
  exact hnot

/-- A text that does not begin in a class does not begin in a part of it. -/
lemma HeadNot.mono {q : Char → Bool} (h : HeadNot p s) (hq : ∀ c, q c = true → p c = true) :
    HeadNot q s := by
  intro c hc
  cases hqc : q c with
  | false => rfl
  | true => rw [← h c hc, hq c hqc]

/-- A text does not begin with a mark if it does not begin with the first character of it. -/
lemma HeadNot.isPrefixOf {t : List Char} (h : HeadNot (· == c) s) :
    (c :: t).isPrefixOf s = false := by
  cases s with
  | nil => rfl
  | cons d s =>
    have hd : (d == c) = false := h d rfl
    rw [List.isPrefixOf, BEq.comm, hd, Bool.false_and]

/-- A mark that does not come next is not eaten. -/
lemma HeadNot.run_eat {t : List Char} (h : HeadNot (· == c) s) :
    (eat (c :: t)).run s = (false, s) := by
  rw [Reader.run_eat, h.isPrefixOf]
  rfl

/-- A mark that was not eaten leaves the text as it is. -/
lemma run_eat_of_not {t s : List Char} (h : ¬((eat t).run s).1 = true) :
    (eat t).run s = (false, s) := by
  rw [Reader.run_eat] at h ⊢
  split at h
  · exact absurd rfl h
  · case isFalse hprefix => rw [if_neg hprefix]

/-- A mark that comes next is eaten. -/
lemma run_eat_append (t s : List Char) : (eat t).run (t ++ s) = (true, s) := by
  have hprefix : t.isPrefixOf (t ++ s) = true :=
    List.isPrefixOf_iff_prefix.mpr (List.prefix_append t s)
  rw [Reader.run_eat, if_pos hprefix, List.drop_left]

/-- A character that comes next is taken. -/
lemma run_eat_cons (c : Char) (s : List Char) : (eat [c]).run (c :: s) = (true, s) :=
  run_eat_append [c] s

/-- Nothing is taken of a text that does not begin in the class. -/
lemma HeadNot.takeWhile_eq_nil (h : HeadNot p s) : s.takeWhile p = [] := by
  cases s with
  | nil => rfl
  | cons c s => exact List.takeWhile_cons_of_neg (by rw [h c rfl]; exact Bool.false_ne_true)

/-- Nothing is dropped of a text that does not begin in the class. -/
lemma HeadNot.dropWhile_eq_self (h : HeadNot p s) : s.dropWhile p = s := by
  cases s with
  | nil => rfl
  | cons c s => exact List.dropWhile_cons_of_neg (by rw [h c rfl]; exact Bool.false_ne_true)

/-- What is all of a class is taken up to a text that begins outside it. -/
lemma HeadNot.takeWhile_append (h : HeadNot p s) {t : List Char} (ht : t.all p = true) :
    (t ++ s).takeWhile p = t := by
  rw [List.takeWhile_append_of_pos (List.all_eq_true.mp ht), h.takeWhile_eq_nil, List.append_nil]

/-- What is all of a class is dropped up to a text that begins outside it. -/
lemma HeadNot.dropWhile_append (h : HeadNot p s) {t : List Char} (ht : t.all p = true) :
    (t ++ s).dropWhile p = s := by
  rw [List.dropWhile_append_of_pos (List.all_eq_true.mp ht), h.dropWhile_eq_self]

end

section
variable {w : String} {s : List Char}

/-- A name is made of characters of words. -/
lemma all_of_isName (h : Text.isName w = true) : w.toList.all Text.isWordChar = true :=
  (Bool.and_eq_true_iff.mp h).2

/-- A name has a first character. -/
lemma isName_eq_cons (h : Text.isName w = true) :
    ∃ c t, w.toList = c :: t ∧ Text.isWordChar c = true := by
  have hall := all_of_isName h
  cases hw : w.toList with
  | nil =>
    have hempty : w.isEmpty = true := by rw [String.toList_eq_nil_iff.mp hw]; rfl
    rw [Text.isName, hempty] at h
    contradiction
  | cons c t =>
    rw [hw, List.all_cons, Bool.and_eq_true] at hall
    exact ⟨c, t, rfl, hall.1⟩

/-- A name does not begin with a blank. -/
lemma dropWhile_name (h : Text.isName w = true) (s : List Char) :
    (w.toList ++ s).dropWhile Text.isBlank = w.toList ++ s := by
  obtain ⟨c, t, hc, hword⟩ := isName_eq_cons h
  rw [hc]
  exact List.dropWhile_cons_of_neg (by simp [isBlank_of_isWordChar hword])

/-- A word is read back. -/
lemma run_word_append (h : Text.isWord w = true) (hs : HeadNot Text.isWordChar s) :
    word.run (w.toList ++ s) = (w, s) := by
  rw [run_word, hs.takeWhile_append h, hs.dropWhile_append h, String.ofList_toList]

/-- A name is taken as a word. -/
lemma run_word_name (h : Text.isName w = true) (hs : HeadNot Text.isWordChar s) :
    word.run (w.toList ++ s) = (w, s) :=
  run_word_append (all_of_isName h) hs

/-- A keyword is read if no word goes on with it. -/
lemma run_keyword_append (w : List Char) (hs : HeadNot Text.isWordChar s) :
    (keyword w).run (w ++ s) = (true, s) := by
  have hprefix : w.isPrefixOf (w ++ s) = true :=
    List.isPrefixOf_iff_prefix.mpr (List.prefix_append w s)
  have hend : s.head?.any Text.isWordChar = false := by
    cases s with
    | nil => rfl
    | cons c s => exact hs c rfl
  unfold keyword
  dsimp only
  rw [List.drop_left, hprefix, hend]
  rfl

end

end Stencil

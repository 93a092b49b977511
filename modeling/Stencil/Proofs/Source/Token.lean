import Stencil.Proofs.Reading.Steps
import Stencil.Proofs.Source.Printing

/-!
# Reading tokens back

What stands for a word, a string, a numeral or a text in a source is read as just that, whatever
comes behind it, as long as that does not go on with the token: a word must not be followed by
another character of a word, and a text not by what completes a mark (`Clear`).
-/

namespace Stencil

open Delimiter Reader

namespace Style
variable (style : Style) (k : Nat) (s : List Char)

/-- Blanks of a style are dropped. -/
@[simp] lemma dropWhile_blanks :
    (style.blanks k ++ s).dropWhile Text.isBlank = s.dropWhile Text.isBlank :=
  List.dropWhile_append_of_pos ((style []).optional k).isBlank

/-- A gap is dropped with the blanks behind it. -/
@[simp] lemma dropWhile_gap :
    (style.gap k ++ s).dropWhile Text.isBlank = s.dropWhile Text.isBlank :=
  List.dropWhile_append_of_pos ((style []).needed k).val.isBlank

/-- Between two words there is at least one blank. -/
lemma gap_eq_cons : ∃ c b, style.gap k = c :: b ∧ Text.isBlank c = true := by
  have hblank := ((style []).needed k).val.isBlank
  cases hb : style.gap k with
  | nil => exact absurd hb ((style []).needed k).property
  | cons c b =>
    rw [show ((style []).needed k).val.chars = c :: b from hb] at hblank
    exact ⟨c, b, rfl, hblank c List.mem_cons_self⟩

end Style

section
variable {p : Char → Bool} {s : List Char}

/-- What stands behind blanks does not begin in a class without blanks, nor do the blanks. -/
lemma headNot_blanks {style : Style} {k : Nat} (hp : ∀ c, Text.isBlank c = true → p c = false)
    (h : HeadNot p s) : HeadNot p (style.blanks k ++ s) := by
  cases hb : style.blanks k with
  | nil => exact h
  | cons c b =>
    refine headNot_cons (hp c (((style []).optional k).isBlank c ?_))
    rw [show ((style []).optional k).chars = c :: b from hb]
    exact List.mem_cons_self

/-- A gap does not begin in a class without blanks. -/
lemma headNot_gap {style : Style} {k : Nat} (hp : ∀ c, Text.isBlank c = true → p c = false) :
    HeadNot p (style.gap k ++ s) := by
  obtain ⟨c, b, hb, hc⟩ := style.gap_eq_cons k
  rw [hb]
  exact headNot_cons (hp c hc)

end

section
variable {quote : Char} {r : List Char}

/-- An escaped backslash or quote stands for itself. -/
lemma unescape_of_escaped {c : Char} (hq : quote = '"' ∨ quote = '\'') (hc : c = '\\' ∨ c = quote) :
    unescape quote c = [c] := by
  obtain rfl | rfl := hq
  · obtain rfl | rfl := hc
    · rfl
    · rfl
  · obtain rfl | rfl := hc
    · rfl
    · rfl

/-- The inside of a string is read back. -/
lemma quotedText?_escapeQuoted (hq : quote = '"' ∨ quote = '\'') (s : List Char) :
    quotedText? quote (s.flatMap (escapeQuoted quote) ++ quote :: r) = some (s, r) := by
  have hslash : quote ≠ '\\' := by
    obtain rfl | rfl := hq
    · decide
    · decide
  induction s with
  | nil => exact quotedText?_quote
  | cons c s ih =>
    rw [List.flatMap_cons, List.append_assoc, escapeQuoted]
    by_cases hc : c = '\\' ∨ c = quote
    · rw [if_pos hc, List.cons_append, List.cons_append, List.nil_append,
        quotedText?_backslash hslash, ih, unescape_of_escaped hq hc]
      rfl
    · rw [if_neg hc, List.cons_append, List.nil_append, quotedText?_other hc (by simp), ih]
      rfl

end

/-- A style has one of the two quotes. -/
lemma Style.quote_eq (style : Style) : style.quote = '"' ∨ style.quote = '\'' := by
  unfold quote
  split
  · exact .inr rfl
  · exact .inl rfl

/-- A string is read back from behind its opening quote. -/
lemma run_quotedText (style : Style) (s : String) (r : List Char) :
    (quotedText style.quote).run
      (s.toList.flatMap (escapeQuoted style.quote) ++ style.quote :: r) = (s, r) := by
  unfold quotedText
  dsimp only
  rw [quotedText?_escapeQuoted style.quote_eq]
  exact Prod.ext String.ofList_toList rfl

/-- Whether a numeral goes on with a character. -/
def extendsNumeral (c : Char) : Bool :=
  c.isDigit || c == '.'

/-- A numeral begins with a minus or a digit. -/
lemma numeralOf_eq_cons (i : Int) :
    ∃ c t, numeralOf i = c :: t ∧ (c = '-' ∨ c.isDigit = true) := by
  unfold numeralOf
  by_cases hneg : i < 0
  · rw [if_pos hneg]
    exact ⟨'-', Digits.digits i.natAbs, rfl, .inl rfl⟩
  · rw [if_neg hneg, List.nil_append]
    cases hd : Digits.digits i.natAbs with
    | nil => exact absurd hd (Digits.digits_ne_nil _)
    | cons c t => exact ⟨c, t, rfl, .inr (Digits.isDigit_of_mem_digits (hd ▸ List.mem_cons_self))⟩

/-- A numeral begins with a minus exactly if its integer is negative. -/
lemma run_eat_minus (i : Int) (r : List Char) :
    (eat ['-']).run (numeralOf i ++ r) = (decide (i < 0), Digits.digits i.natAbs ++ r) := by
  unfold numeralOf
  by_cases hneg : i < 0
  · rw [if_pos hneg, decide_eq_true hneg, List.append_assoc]
    exact run_eat_append ['-'] _
  · rw [if_neg hneg, decide_eq_false hneg, List.nil_append]
    refine HeadNot.run_eat ?_
    cases hd : Digits.digits i.natAbs with
    | nil => exact absurd hd (Digits.digits_ne_nil _)
    | cons c d =>
      have hc : c.isDigit = true := Digits.isDigit_of_mem_digits (hd ▸ List.mem_cons_self)
      refine headNot_cons (beq_eq_false_iff_ne.mpr ?_)
      rintro rfl
      exact absurd hc (by decide)

/-- The numeral of an integer is read as the number that the integer rounds to. -/
lemma run_numeral (i : Int) {r : List Char} (h : HeadNot extendsNumeral r) :
    numeral.run (numeralOf i ++ r) = (.literal (.number (.ofInt i)), r) := by
  have hdigits : HeadNot Char.isDigit r :=
    h.mono fun c hc => Bool.or_eq_true_iff.mpr (.inl hc)
  have hpoint : HeadNot (· == '.') r :=
    h.mono fun c hc => Bool.or_eq_true_iff.mpr (.inr hc)
  have hall : (Digits.digits i.natAbs).all Char.isDigit = true :=
    List.all_eq_true.mpr fun c hc => Digits.isDigit_of_mem_digits hc
  unfold numeral
  rw [run_bind, run_eat_minus, run_bind, run_takeWhile, hdigits.takeWhile_append hall,
    hdigits.dropWhile_append hall, run_bind, hpoint.run_eat]
  simp [Digits.digits_ne_nil, Number.ofDecimal_digits]

/-- Whether a path goes on with a character. -/
def extendsPath (c : Char) : Bool :=
  Text.isWordChar c || c == '.'

/-- What comes behind a path decides what comes behind its first segment. -/
lemma headNot_segmentsSource {p : Char → Bool} {more : List String} {r : List Char}
    (hp : p '.' = false) (h : HeadNot p r) : HeadNot p (segmentsSource more ++ r) := by
  cases more with
  | nil => exact h
  | cons s more => exact headNot_cons hp

/-- The source of further segments is read as these segments. -/
lemma segmentsFrom_source {more : List String} {r : List Char}
    (hmore : more.all Text.isName = true) (h : HeadNot extendsPath r) :
    segmentsFrom (segmentsSource more ++ r) = (more, r) := by
  induction more with
  | nil =>
    rw [segmentsSource, List.nil_append]
    rw [segmentsFrom]
    intro s hs
    have := h '.' (by rw [hs]; rfl)
    contradiction
  | cons s more ih =>
    rw [List.all_cons, Bool.and_eq_true] at hmore
    have hhead : HeadNot Text.isWordChar (segmentsSource more ++ r) :=
      headNot_segmentsSource (by decide) (h.mono fun c hc => Bool.or_eq_true_iff.mpr (.inl hc))
    rw [segmentsSource, List.cons_append, List.append_assoc, segmentsFrom]
    rw [hhead.takeWhile_append (all_of_isName hmore.1),
      hhead.dropWhile_append (all_of_isName hmore.1), ih hmore.2, String.ofList_toList]

/-- Whether no mark arises where one text follows another: neither an opening mark across the seam
nor a backslash right before one. -/
def Clear (t u : List Char) : Prop :=
  (t.getLast? = some '{' → u.head? ≠ some '{') ∧
    (t.getLast? = some '\\' → tagOpen.isPrefixOf u = false)

/-- What is clear with a character in front is clear without it. -/
lemma Clear.of_cons {c : Char} {t u : List Char} (h : Clear (c :: t) u) : Clear t u := by
  cases t with
  | nil =>
    refine ⟨fun hlast => ?_, fun hlast => ?_⟩
    · cases hlast
    · cases hlast
  | cons d t =>
    rw [Clear, List.getLast?_cons_cons] at h
    exact h

/-- Behind a brace that begins no mark, the source goes on with another character. -/
lemma head?_escapeMarks {t u : List Char} (h : Clear ('{' :: t) u)
    (ht : ∀ r, t = '{' :: r → False) : (escapeMarks t ++ u).head? ≠ some '{' := by
  fun_cases escapeMarks t with
  | case1 s => exact absurd rfl (ht _)
  | case2 c s hmark =>
    intro hc
    obtain rfl := Option.some.inj hc
    exact ht s rfl
  | case3 => exact h.1 rfl

/-- The source of a text has no opening mark in front. -/
lemma isPrefixOf_escapeMarks {t u : List Char} (h : Clear t u) (ht : t ≠ []) :
    tagOpen.isPrefixOf (escapeMarks t ++ u) = false := by
  fun_cases escapeMarks t with
  | case1 s => rfl
  | case2 c s hmark =>
    by_cases hc : c = '{'
    · subst hc
      have hs := head?_escapeMarks h fun r => hmark r rfl
      cases hr : escapeMarks s ++ u with
      | nil => rw [List.cons_append, hr]; rfl
      | cons d r =>
        rw [hr] at hs
        rw [List.cons_append, hr, tagOpen, List.isPrefixOf, List.isPrefixOf]
        have hd : ('{' == d) = false := beq_eq_false_iff_ne.mpr fun heq => hs (by rw [heq]; rfl)
        rw [hd, Bool.false_and, Bool.and_false]
    · exact HeadNot.isPrefixOf (headNot_cons (beq_eq_false_iff_ne.mpr hc))
  | case3 => exact absurd rfl ht

/-- A text is read back, and joined to the text that follows it. -/
lemma literalText_escapeMarks {t u : List Char} (h : Clear t u) :
    literalText (escapeMarks t ++ u) = (t ++ (literalText u).1, (literalText u).2) := by
  fun_induction escapeMarks t with
  | case1 s ih =>
    rw [List.append_assoc]
    change (tagOpen ++ (literalText (escapeMarks s ++ u)).1,
      (literalText (escapeMarks s ++ u)).2) = _
    rw [ih h.of_cons.of_cons]
    rfl
  | case2 c s hmark ih =>
    -- a brace or a backslash must not become part of a mark with what comes next
    rw [List.cons_append, literalText_cons, ih h.of_cons]
    · rfl
    · rintro rfl
      exact head?_escapeMarks h fun r => hmark r rfl
    · rintro rfl
      by_cases hs : s = []
      · subst hs
        exact h.2 rfl
      · exact isPrefixOf_escapeMarks h.of_cons hs
  | case3 => rfl

end Stencil

import Stencil.Proofs.Number.Coercion
import Stencil.Proofs.Reading.Steps

/-!
# Numbers in a template

What begins with a minus, a point or a digit is taken for a number, as far as it has the form of
one: a minus, digits, a point and digits again, of which everything may be missing (`DigitRun`). The
reader takes the longest such run. With a digit in it the run is a numeral, and denotes the number
nearest to its decimal; without one it is the name of a path.
-/

namespace Stencil

open Reader

/-- The characters of a number in a template: an optional minus and digits, of which some may stand
behind a point. There need not be any. -/
structure DigitRun where
  minus : Bool
  whole : List Char
  fraction : Option (List Char)
  all_whole : whole.all Char.isDigit = true
  all_fraction : (fraction.getD []).all Char.isDigit = true

namespace DigitRun

/-- What stands behind the digits in front of the point. -/
def pointed (run : DigitRun) : List Char :=
  run.fraction.elim [] ('.' :: ·)

/-- A run without its minus. -/
def unsigned (run : DigitRun) : List Char :=
  run.whole ++ run.pointed

/-- A run as text. -/
def text (run : DigitRun) : List Char :=
  (if run.minus then ['-'] else []) ++ run.unsigned

/-- The digits of a run on both sides of its point. -/
def digits (run : DigitRun) : List Char :=
  run.whole ++ run.fraction.getD []

/-- The decimal that a run denotes, apart from its sign. -/
def decimal (run : DigitRun) : Decimal :=
  ⟨Digits.ofDigits run.digits, -(run.fraction.getD []).length⟩

/-- What a run is read as: a path of that name if it has no digits, and else a number. -/
def expr (run : DigitRun) : Expr :=
  if run.digits = [] then .path [String.ofList run.text]
  else .literal (.number (.ofDecimal run.minus run.decimal))

/-- No longer run begins where a run does, if a text comes behind it. -/
structure StopsBefore (run : DigitRun) (rest : List Char) : Prop where
  minus : run.text = [] → HeadNot (· == '-') rest
  digit : HeadNot Char.isDigit rest
  point : run.fraction = none → HeadNot (· == '.') rest

/-- A run with a digit, as a numeral. -/
def toNumeral (run : DigitRun) (h : run.digits ≠ []) : Numeral :=
  ⟨if run.minus then .minus else .absent, run.whole, run.fraction, none, run.all_whole,
    run.all_fraction, h⟩

section
variable {run : DigitRun}

/-- A run with a minus begins with it. -/
lemma text_of_minus (h : run.minus = true) : run.text = '-' :: run.unsigned := by
  rw [text, h]
  rfl

/-- A run without a minus is its own unsigned part. -/
lemma text_of_no_minus (h : run.minus = false) : run.text = run.unsigned := by
  rw [text, h]
  rfl

/-- A run with digits is a numeral of the same text. -/
lemma text_toNumeral (h : run.digits ≠ []) : (run.toNumeral h).text = run.text := by
  have hsign : (run.toNumeral h).sign.text = if run.minus then ['-'] else [] := by
    unfold toNumeral
    cases run.minus with
    | true => rfl
    | false => rfl
  have hunsigned : (run.toNumeral h).unsigned = run.unsigned := by
    rw [Numeral.unsigned, Numeral.afterWhole]
    exact congrArg (run.whole ++ ·) (List.append_nil run.pointed)
  rw [Numeral.text, hsign, hunsigned, text]

/-- The numeral is read as the decimal of the run. -/
lemma read_toNumeral (h : run.digits ≠ []) : (run.toNumeral h).read = run.decimal :=
  congrArg (Decimal.mk _) (Int.zero_sub _)

/-- The text of a run with a digit is read as the number that the run denotes. -/
lemma ofText_text (h : run.digits ≠ []) :
    Number.ofText (String.ofList run.text) = .ofDecimal run.minus run.decimal := by
  have htrim : Text.trim (String.ofList run.text).toList = (run.toNumeral h).text := by
    rw [String.toList_ofList, ← text_toNumeral h]
    refine Text.trim_eq_self fun c hc => isBlank_of_isNumeralChar ?_
    exact List.all_eq_true.mp (run.toNumeral h).all_text c hc
  have hminus : (run.toNumeral h).sign.isMinus = run.minus := by
    unfold toNumeral
    cases run.minus with
    | true => rfl
    | false => rfl
  rw [Number.ofText_of_numeral htrim, hminus, read_toNumeral h]

/-- Without digits, a run has no other characters than a minus and a point. -/
lemma isDigit_of_digits_eq_nil (h : run.digits = []) {c : Char} (hc : c ∈ run.text) :
    c.isDigit = false := by
  obtain ⟨hwhole, hfraction⟩ := List.append_eq_nil_iff.mp h
  rw [text, unsigned, hwhole, List.nil_append, List.mem_append] at hc
  obtain hminus | hpoint := hc
  · cases hcase : run.minus with
    | true =>
      rw [hcase, if_pos rfl, List.mem_singleton] at hminus
      subst hminus
      rfl
    | false =>
      rw [hcase] at hminus
      cases hminus
  · rw [pointed] at hpoint
    cases hcase : run.fraction with
    | none =>
      rw [hcase] at hpoint
      cases hpoint
    | some fraction =>
      rw [hcase, Option.getD_some] at hfraction
      rw [hcase, hfraction, Option.elim_some, List.mem_singleton] at hpoint
      subst hpoint
      rfl

/-- A run has digits if there is one in its text. -/
lemma digits_ne_nil_iff : run.digits ≠ [] ↔ ∃ c ∈ run.text, c.isDigit = true := by
  refine ⟨fun h => ?_, ?_⟩
  · rw [← text_toNumeral h]
    exact (run.toNumeral h).exists_isDigit
  · rintro ⟨c, hc, hdigit⟩ hnil
    rw [isDigit_of_digits_eq_nil hnil hc] at hdigit
    contradiction

/-- What begins with a minus, a point or a digit begins with a run of one character. -/
lemma exists_text_singleton {c : Char} (h : c = '-' ∨ c = '.' ∨ c.isDigit = true) :
    ∃ run : DigitRun, run.text = [c] := by
  obtain rfl | rfl | hdigit := h
  · exact ⟨⟨true, [], none, rfl, rfl⟩, rfl⟩
  · exact ⟨⟨false, [], some [], rfl, rfl⟩, rfl⟩
  · exact ⟨⟨false, [c], none, by rw [List.all_cons, hdigit]; rfl, rfl⟩, rfl⟩

end

/-- Digits that are followed by none are the most that a text begins with. -/
lemma length_le_of_digits {ds es s t : List Char} (hds : ds.all Char.isDigit = true)
    (hes : es.all Char.isDigit = true) (ht : HeadNot Char.isDigit t) (h : ds ++ s = es ++ t) :
    ds.length ≤ es.length := by
  have htake : es = ds ++ s.takeWhile Char.isDigit := by
    rw [← ht.takeWhile_append hes, ← h, List.takeWhile_append_of_pos (List.all_eq_true.mp hds)]
  rw [htake, List.length_append]
  exact Nat.le_add_right _ _

section
variable {run other : DigitRun} {rest s : List Char}

/-- No digit comes behind the digits in front of the point. -/
lemma StopsBefore.headNot_pointed (h : run.StopsBefore rest) :
    HeadNot Char.isDigit (run.pointed ++ rest) := by
  rw [pointed]
  cases run.fraction with
  | none => exact h.digit
  | some fraction => exact headNot_cons rfl

/-- Without its minus, a run does not begin with one. -/
lemma headNot_unsigned (run : DigitRun) (h : run.unsigned = [] → HeadNot (· == '-') rest) :
    HeadNot (· == '-') (run.unsigned ++ rest) := by
  cases hfirst : run.unsigned with
  | nil => exact h hfirst
  | cons c t =>
    refine headNot_cons (beq_eq_false_iff_ne.mpr ?_)
    rintro rfl
    rw [unsigned] at hfirst
    cases hwhole : run.whole with
    | nil =>
      rw [hwhole, List.nil_append, pointed] at hfirst
      cases hcase : run.fraction with
      | none =>
        rw [hcase] at hfirst
        cases hfirst
      | some fraction =>
        rw [hcase] at hfirst
        cases hfirst
    | cons d whole =>
      have hall := run.all_whole
      rw [hwhole] at hfirst hall
      cases hfirst
      cases hall

/-- An unsigned run does not begin with a minus, with what follows it. -/
lemma StopsBefore.headNot_unsigned (h : run.StopsBefore rest) (hminus : run.minus = false) :
    HeadNot (· == '-') (run.unsigned ++ rest) :=
  run.headNot_unsigned fun hnil => h.minus ((text_of_no_minus hminus).trans hnil)

/-- No unsigned run that begins the same text is longer. -/
lemma StopsBefore.length_unsigned_le (h : run.StopsBefore rest)
    (hother : other.unsigned ++ s = run.unsigned ++ rest) :
    other.unsigned.length ≤ run.unsigned.length := by
  rw [unsigned, unsigned, List.append_assoc, List.append_assoc] at hother
  have hwhole := length_le_of_digits other.all_whole run.all_whole h.headNot_pointed hother
  rw [unsigned, unsigned, List.length_append, List.length_append]
  cases hcase : other.fraction with
  | none =>
    rw [show other.pointed = [] by rw [pointed, hcase]; rfl, List.length_nil]
    omega
  | some fraction =>
    have hpointed : other.pointed = '.' :: fraction := by rw [pointed, hcase]; rfl
    have hfraction := other.all_fraction
    rw [hcase, Option.getD_some] at hfraction
    rw [hpointed] at hother ⊢
    -- a point ends the digits in front of it, so both runs have the same ones
    have hsame : other.whole = run.whole := by
      have hpoint : HeadNot Char.isDigit ('.' :: fraction ++ s) := headNot_cons rfl
      rw [← hpoint.takeWhile_append other.all_whole, hother,
        h.headNot_pointed.takeWhile_append run.all_whole]
    rw [hsame, List.append_cancel_left_eq] at hother
    cases hrun : run.fraction with
    | none =>
      rw [pointed, hrun, Option.elim_none, List.nil_append] at hother
      have hnot := h.point hrun
      rw [← hother] at hnot
      exact absurd (hnot '.' rfl) (by decide)
    | some more =>
      have hmore := run.all_fraction
      rw [hrun, Option.getD_some] at hmore
      have hrunPointed : run.pointed = '.' :: more := by rw [pointed, hrun]; rfl
      rw [hrunPointed, List.cons_append, List.cons_append, List.cons.injEq] at hother
      have hle := length_le_of_digits hfraction hmore h.digit hother.2
      rw [hrunPointed, hsame, List.length_cons, List.length_cons]
      omega

/-- Where a run stops, it is the longest one that the text begins with. -/
lemma StopsBefore.length_le (h : run.StopsBefore rest)
    (hother : other.text ++ s = run.text ++ rest) : other.text.length ≤ run.text.length := by
  cases hminus : other.minus with
  | true =>
    rw [text_of_minus hminus] at hother ⊢
    cases hrun : run.minus with
    | true =>
      rw [text_of_minus hrun, List.cons_append, List.cons_append, List.cons.injEq] at hother
      rw [text_of_minus hrun, List.length_cons, List.length_cons]
      exact Nat.succ_le_succ (h.length_unsigned_le hother.2)
    | false =>
      rw [text_of_no_minus hrun] at hother
      have hnot := h.headNot_unsigned hrun
      rw [← hother] at hnot
      exact absurd (hnot '-' rfl) (by decide)
  | false =>
    rw [text_of_no_minus hminus] at hother ⊢
    cases hrun : run.minus with
    | true =>
      rw [text_of_minus hrun] at hother ⊢
      cases hfirst : other.unsigned with
      | nil => exact Nat.zero_le _
      | cons c t =>
        have hnot : HeadNot (· == '-') (other.unsigned ++ s) := by
          refine other.headNot_unsigned fun hnil => ?_
          rw [hfirst] at hnil
          cases hnil
        rw [hother] at hnot
        exact absurd (hnot '-' rfl) (by decide)
    | false =>
      rw [text_of_no_minus hrun] at hother ⊢
      exact h.length_unsigned_le hother

/-- What a run is read as, from the parts that the reader has taken. -/
lemma expr_eq (run : DigitRun) :
    run.expr = if run.whole = [] ∧ run.fraction.getD [] = [] then
        .path [String.ofList ((if run.minus then ['-'] else []) ++
          if run.fraction.isSome then ['.'] else [])]
      else
        .literal (.number
          (.ofDecimal run.minus (.ofParts run.whole (run.fraction.getD []) 0))) := by
  have hdigits : run.digits = [] ↔ run.whole = [] ∧ run.fraction.getD [] = [] :=
    List.append_eq_nil_iff
  by_cases hnil : run.whole = [] ∧ run.fraction.getD [] = []
  · rw [expr, if_pos (hdigits.mpr hnil), if_pos hnil]
    obtain ⟨hwhole, hfraction⟩ := hnil
    rw [text, unsigned, hwhole, List.nil_append, pointed]
    cases hcase : run.fraction with
    | none => rfl
    | some fraction =>
      rw [hcase, Option.getD_some] at hfraction
      rw [hfraction]
      rfl
  · rw [expr, if_neg ((not_congr hdigits).mpr hnil), if_neg hnil, Decimal.ofParts,
      Digits.ofLongDigits_eq, Int.zero_sub]
    rfl

/-- A run is read where it stops. -/
lemma StopsBefore.run_numeral (h : run.StopsBefore rest) :
    numeral.run (run.text ++ rest) = (run.expr, rest) := by
  have hminus : (eat ['-']).run (run.text ++ rest) = (run.minus, run.unsigned ++ rest) := by
    cases hrun : run.minus with
    | true =>
      rw [text_of_minus hrun]
      exact run_eat_cons '-' _
    | false =>
      rw [text_of_no_minus hrun]
      exact (h.headNot_unsigned hrun).run_eat
  unfold numeral
  rw [run_bind, hminus, unsigned, List.append_assoc, run_bind, run_takeWhile,
    h.headNot_pointed.takeWhile_append run.all_whole,
    h.headNot_pointed.dropWhile_append run.all_whole, run_bind, expr_eq, pointed]
  cases hcase : run.fraction with
  | none =>
    rw [Option.elim_none, List.nil_append, (h.point hcase).run_eat]
    by_cases hnil : run.whole = []
    · simp [hnil]
    · simp [hnil]
  | some fraction =>
    have hfraction := run.all_fraction
    rw [hcase, Option.getD_some] at hfraction
    rw [Option.elim_some, List.cons_append, run_eat_cons, Option.getD_some]
    dsimp only
    rw [if_pos rfl, run_bind, run_takeWhile, h.digit.takeWhile_append hfraction,
      h.digit.dropWhile_append hfraction]
    by_cases hnil : run.whole = [] ∧ fraction = []
    · rw [if_pos hnil, if_pos hnil]
      rfl
    · rw [if_neg hnil, if_neg hnil]
      rfl

end

/-- Every text begins with a run that neither a digit nor a point continues. The minus of the run is
left open, as it stands in front of the text. -/
lemma exists_unsigned (minus : Bool) (s : List Char) :
    ∃ (run : DigitRun) (rest : List Char), run.minus = minus ∧ s = run.unsigned ++ rest ∧
      HeadNot Char.isDigit rest ∧ (run.fraction = none → HeadNot (· == '.') rest) := by
  have hsplit : s.takeWhile Char.isDigit ++ s.dropWhile Char.isDigit = s :=
    List.takeWhile_append_dropWhile
  by_cases hpoint : ∃ r, s.dropWhile Char.isDigit = '.' :: r
  · obtain ⟨r, hr⟩ := hpoint
    refine ⟨⟨minus, s.takeWhile Char.isDigit, some (r.takeWhile Char.isDigit), List.all_takeWhile,
      List.all_takeWhile⟩, r.dropWhile Char.isDigit, rfl, ?_, headNot_dropWhile _ _, nofun⟩
    rw [unsigned, pointed, List.append_assoc, Option.elim_some, List.cons_append,
      List.takeWhile_append_dropWhile, ← hr, hsplit]
  · refine ⟨⟨minus, s.takeWhile Char.isDigit, none, List.all_takeWhile, rfl⟩,
      s.dropWhile Char.isDigit, rfl, ?_, headNot_dropWhile _ _, fun _ => ?_⟩
    · rw [unsigned, pointed, List.append_assoc, Option.elim_none, List.nil_append, hsplit]
    · refine headNot_iff.mpr fun c t ht => beq_eq_false_iff_ne.mpr ?_
      rintro rfl
      exact hpoint ⟨t, ht⟩

/-- Every text begins with a run that stops there. -/
lemma exists_stopsBefore (s : List Char) :
    ∃ (run : DigitRun) (rest : List Char), run.StopsBefore rest ∧ s = run.text ++ rest := by
  by_cases hminus : ∃ t, s = '-' :: t
  · obtain ⟨t, rfl⟩ := hminus
    obtain ⟨run, rest, hrun, rfl, hdigit, hpoint⟩ := exists_unsigned true t
    refine ⟨run, rest, ⟨fun hnil => ?_, hdigit, hpoint⟩, ?_⟩
    · rw [text_of_minus hrun] at hnil
      cases hnil
    · rw [text_of_minus hrun, List.cons_append]
  · obtain ⟨run, rest, hrun, rfl, hdigit, hpoint⟩ := exists_unsigned false s
    refine ⟨run, rest, ⟨fun hnil => ?_, hdigit, hpoint⟩, ?_⟩
    · rw [text_of_no_minus hrun] at hnil
      rw [hnil, List.nil_append] at hminus
      refine headNot_iff.mpr fun c t ht => beq_eq_false_iff_ne.mpr ?_
      rintro rfl
      exact hminus ⟨t, ht⟩
    · rw [text_of_no_minus hrun]

end DigitRun

/-- What becomes of a text that begins with a run. It is the longest one, and at least a character
long. With a digit in it, it is read as the number nearest to what it denotes, which its text by
itself is read as, too; otherwise it is read as a path of that name. -/
structure DigitRun.Taken (run : DigitRun) (s : List Char) (e : Expr) (rest : List Char) : Prop where
  split : s = run.text ++ rest
  ne_nil : run.text ≠ []
  longest : ∀ other : DigitRun, other.text <+: s → other.text.length ≤ run.text.length
  number : (∃ d ∈ run.text, d.isDigit = true) → ∃ x : Number, e = .literal (.number x) ∧
    Number.IsNearest run.minus run.decimal.value x ∧ x ≠ .nan ∧
    Number.ofText (String.ofList run.text) = x
  path : (∀ d ∈ run.text, d.isDigit = false) → e = .path [String.ofList run.text]

/-- What begins with a minus, a point or a digit is read up to the end of its longest run, which has
at least that one character. -/
theorem run_primary_digitRun (inner : ExprReader) {c : Char}
    (h : c = '-' ∨ c = '.' ∨ c.isDigit = true) (s : List Char) :
    ∃ (run : DigitRun) (e : Expr) (rest : List Char),
      (primary inner).run (c :: s) = (e, rest) ∧ run.Taken (c :: s) e rest := by
  obtain ⟨run, rest, hstops, hs⟩ := DigitRun.exists_stopsBefore (c :: s)
  have hread : (primary inner).run (c :: s) = (run.expr, rest) := by
    rw [run_primary_numeral h, hs, hstops.run_numeral]
  have hlongest : ∀ other : DigitRun, other.text <+: c :: s →
      other.text.length ≤ run.text.length := by
    rintro other ⟨t, ht⟩
    exact hstops.length_le (ht.trans hs)
  refine ⟨run, run.expr, rest, hread,
    ⟨hs, fun hnil => ?_, hlongest, fun hdigit => ?_, fun hnone => ?_⟩⟩
  · obtain ⟨first, hfirst⟩ := DigitRun.exists_text_singleton h
    have hle := hlongest first (by rw [hfirst]; exact ⟨s, rfl⟩)
    rw [hfirst, hnil] at hle
    contradiction
  · have hdigits := DigitRun.digits_ne_nil_iff.mpr hdigit
    refine ⟨.ofDecimal run.minus run.decimal, ?_, Number.isNearest_ofDecimal _ _,
      Number.ofDecimal_ne_nan _ _, DigitRun.ofText_text hdigits⟩
    rw [DigitRun.expr, if_neg hdigits]
  · have hdigits : run.digits = [] := by
      by_contra hne
      obtain ⟨d, hd, hdigit⟩ := DigitRun.digits_ne_nil_iff.mp hne
      rw [hnone d hd] at hdigit
      contradiction
    rw [DigitRun.expr, if_pos hdigits]

/-- A minus, and a point without digits in front of it; a second point ends the run. -/
theorem run_primary_digitRun_of_points :
    ('-' = '-' ∨ '-' = '.' ∨ '-'.isDigit = true) ∧
      ∃ (run : DigitRun) (e : Expr) (rest : List Char),
        (primary (expression 1)).run ['-', '.', '5', '.', '7'] = (e, rest) ∧
          run.Taken ['-', '.', '5', '.', '7'] e rest := by
  have hfirst : '-' = '-' ∨ '-' = '.' ∨ '-'.isDigit = true := .inl rfl
  exact ⟨hfirst, run_primary_digitRun (expression 1) hfirst ['.', '5', '.', '7']⟩

end Stencil

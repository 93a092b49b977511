import Mathlib.Data.List.DropRight
import Stencil.Proofs.Source.Token

/-!
# Reading expressions back

An expression that is written in any style is read back (`Expr.readsAs`). Pipes stand behind what
they take as input, so the input is read first, by the same reader and with the same levels, and
each pipe uses up one of them. `ReadsAs` therefore says what reading the source of an expression
comes to: taking the pipes behind it, with as many levels left as the source was shorter than the
levels.
-/

namespace Stencil

open Reader

/-- Whether an expression may go on with a character. -/
def extendsExpr (c : Char) : Bool :=
  Text.isWordChar c || c == '.' || c == '('

/-- Whether an expression as it is written may begin with a character. -/
def beginsExpr (c : Char) : Bool :=
  Text.isWordChar c || c == '"' || c == '\'' || c == '-'

/-- Reading `x` comes to reading the pipes behind `e`. -/
def ReadsAs (x : List Char) (e : Expr) : Prop :=
  ∀ levels, x.length ≤ levels + 1 → ∃ left, levels + 1 ≤ left + x.length ∧
    ∀ r, HeadNot extendsExpr r →
      (primary (expression levels) >>= pipes levels).run (x ++ r) = (pipes left e).run r

/-- Reading arguments from `x` gives `args`, and takes all of it. -/
def ArgumentsReadAs (x : List Char) (args : List Expr) : Prop :=
  ∀ levels, x.length ≤ levels → ∀ r, (expression levels).argumentsFrom (x ++ r) = (args, r)

/-- Reading what may be arguments in parentheses from `x` gives `args`, and takes all of it. -/
def OptionalReadAs (x : List Char) (args : List Expr) : Prop :=
  ∀ levels, x.length ≤ levels → ∀ r, HeadNot extendsExpr r →
    HeadNot Text.isWordChar (x ++ r) ∧
      (expression levels).optionalArguments.run (x ++ r) = (args, r)

/-- A blank extends no expression. -/
lemma extendsExpr_of_isBlank {c : Char} (h : Text.isBlank c = true) : extendsExpr c = false := by
  unfold extendsExpr
  rw [isWordChar_of_isBlank h, Bool.false_or, Bool.or_eq_false_iff, beq_eq_false_iff_ne,
    beq_eq_false_iff_ne]
  constructor
  · rintro rfl
    exact absurd h (by decide)
  · rintro rfl
    exact absurd h (by decide)

section
variable {r : List Char} (h : HeadNot extendsExpr r)
include h

/-- What extends no expression begins with no character of words. -/
lemma HeadNot.isWordChar : HeadNot Text.isWordChar r :=
  h.mono fun c hc => by rw [extendsExpr, hc, Bool.true_or, Bool.true_or]

/-- What extends no expression extends no path. -/
lemma HeadNot.extendsPath : HeadNot Stencil.extendsPath r := by
  refine h.mono fun c hc => ?_
  rw [Stencil.extendsPath] at hc
  rw [extendsExpr, hc, Bool.true_or]

/-- What extends no expression extends no numeral. -/
lemma HeadNot.extendsNumeral : HeadNot Stencil.extendsNumeral r := by
  refine h.mono fun c hc => ?_
  rw [Stencil.extendsNumeral, Bool.or_eq_true] at hc
  unfold extendsExpr
  obtain hdigit | hpoint := hc
  · rw [isWordChar_of_isDigit hdigit, Bool.true_or, Bool.true_or]
  · rw [hpoint, Bool.or_true, Bool.true_or]

/-- What extends no expression begins with no parenthesis. -/
lemma HeadNot.not_parenthesis : HeadNot (· == '(') r :=
  h.mono fun c hc => by rw [extendsExpr, show (c == '(') = true from hc, Bool.or_true]

end

/-- An expression begins with no blank. -/
lemma isBlank_of_beginsExpr {c : Char} (h : beginsExpr c = true) : Text.isBlank c = false := by
  unfold beginsExpr at h
  simp only [Bool.or_eq_true, beq_iff_eq] at h
  obtain ((hword | rfl) | rfl) | rfl := h
  · exact isBlank_of_isWordChar hword
  · decide
  · decide
  · decide

/-- A character with which no expression begins is another one. -/
lemma ne_of_beginsExpr {c d : Char} (h : beginsExpr c = true) (hd : beginsExpr d = false) :
    c ≠ d := by
  rintro rfl
  rw [h] at hd
  contradiction

/-- The first name of an expression is a word that is no constant and does not begin with a digit.
-/
lemma isFirstName_iff {w : String} :
    isFirstName w = true ↔ Text.isName w = true ∧ (∀ c t, w.toList = c :: t → c.isDigit = false) ∧
      w ≠ "true" ∧ w ≠ "false" ∧ w ≠ "null" := by
  unfold isFirstName
  simp only [Bool.and_eq_true, bne_iff_ne, Bool.not_eq_true', and_assoc]
  refine and_congr_right fun hname => and_congr_left fun _ => ?_
  obtain ⟨c, t, hc, _⟩ := isName_eq_cons hname
  rw [hc]
  simp

section
variable {inner : ExprReader} {w : String} {r : List Char}

/-- A word is read by what it names. -/
lemma run_named (hw : Text.isName w = true) (hr : HeadNot Text.isWordChar r) :
    (named inner).run (w.toList ++ r) =
      if w = "null" then (.literal .null, r)
      else if w = "true" then (.literal (.bool true), r)
      else if w = "false" then (.literal (.bool false), r)
      else if ((eat ['(']).run r).1 then
        (.call w (inner.argumentsFrom ((eat ['(']).run r).2).1,
          (inner.argumentsFrom ((eat ['(']).run r).2).2)
      else
        (.path (w :: (segmentsFrom ((eat ['(']).run r).2).1),
          (segmentsFrom ((eat ['(']).run r).2).2) := by
  unfold named
  rw [run_bind, run_word_name hw hr]
  dsimp only
  split
  · rfl
  · split
    · rfl
    · split
      · rfl
      · rw [run_bind]
        cases ((eat ['(']).run r).1 with
        | true => rfl
        | false => rfl

/-- A name is read as a path if no parenthesis opens behind it. -/
lemma run_primary_path {more : List String} (hw : isFirstName w = true)
    (hmore : more.all Text.isName = true) (hr : HeadNot extendsExpr r) :
    (primary inner).run (w.toList ++ (segmentsSource more ++ r)) = (.path (w :: more), r) := by
  obtain ⟨hname, hdigit, htrue, hfalse, hnull⟩ := isFirstName_iff.mp hw
  obtain ⟨c, t, hc, hword⟩ := isName_eq_cons hname
  have hbehind : HeadNot Text.isWordChar (segmentsSource more ++ r) :=
    headNot_segmentsSource (by decide) hr.isWordChar
  have hopen : HeadNot (· == '(') (segmentsSource more ++ r) :=
    headNot_segmentsSource (by decide) hr.not_parenthesis
  rw [hc, List.cons_append, run_primary_name hword (hdigit c t hc), ← List.cons_append, ← hc,
    run_named hname hbehind, if_neg hnull, if_neg htrue, if_neg hfalse, hopen.run_eat,
    if_neg Bool.false_ne_true, segmentsFrom_source hmore hr.extendsPath]

/-- A name is read as a call if a parenthesis opens behind it. -/
lemma run_primary_call {args : List Expr} {s : List Char} (hw : isFirstName w = true)
    (hargs : inner.argumentsFrom s = (args, r)) :
    (primary inner).run (w.toList ++ '(' :: s) = (.call w args, r) := by
  obtain ⟨hname, hdigit, htrue, hfalse, hnull⟩ := isFirstName_iff.mp hw
  obtain ⟨c, t, hc, hword⟩ := isName_eq_cons hname
  have hbehind : HeadNot Text.isWordChar ('(' :: s) := headNot_cons (by decide)
  rw [hc, List.cons_append, run_primary_name hword (hdigit c t hc), ← List.cons_append, ← hc,
    run_named hname hbehind, if_neg hnull, if_neg htrue, if_neg hfalse,
    run_eat_cons, if_pos rfl, hargs]

/-- The source of a literal is read as the literal. -/
lemma run_primary_literal (style : Style) {v : Value} (hv : v.printable = true)
    (hr : HeadNot extendsExpr r) :
    (primary inner).run (v.source style.quote ++ r) = (.literal v, r) := by
  cases v with
  | null =>
    rw [Value.source, List.cons_append, run_primary_name (by decide) (by decide)]
    exact (run_named (w := "null") (by decide) hr.isWordChar).trans (if_pos rfl)
  | bool b =>
    cases b with
    | true =>
      rw [Value.source, if_pos rfl, List.cons_append, run_primary_name (by decide) (by decide)]
      exact run_named (w := "true") (by decide) hr.isWordChar
    | false =>
      rw [Value.source, if_neg Bool.false_ne_true, List.cons_append,
        run_primary_name (by decide) (by decide)]
      exact run_named (w := "false") (by decide) hr.isWordChar
  | number x =>
    obtain ⟨i, hi⟩ := Option.isSome_iff_exists.mp hv
    obtain ⟨c, t, ht, hc⟩ := numeralOf_eq_cons i
    rw [Value.source, hi, Option.getD_some, ht, List.cons_append,
      run_primary_numeral (hc.imp_right .inr), ← List.cons_append, ← ht,
      run_numeral i hr.extendsNumeral, (Number.whole?_eq_some hi).1]
  | string s =>
    rw [Value.source, quotedSource, List.cons_append, run_primary_quote style.quote_eq,
      List.append_assoc]
    rw [show [style.quote] ++ r = style.quote :: r from rfl, run_quotedText]
  | array items => cases hv
  | object fields => cases hv

end

/-- What is read as an expression without pipes is read as it. -/
lemma ReadsAs.of_primary {x : List Char} {e : Expr} (hx : x ≠ [])
    (h : ∀ levels, x.length ≤ levels + 1 → ∀ r, HeadNot extendsExpr r →
      (primary (expression levels)).run (x ++ r) = (e, r)) : ReadsAs x e := by
  intro levels hlevels
  refine ⟨levels, ?_, fun r hr => ?_⟩
  · have := List.length_pos_iff.mpr hx
    omega
  · rw [run_bind, h levels hlevels r hr]

/-- With levels enough, an expression is read together with the blanks behind it, unless a pipe
comes there. -/
lemma ReadsAs.run_expression {x r : List Char} {e : Expr} {levels : Nat} (h : ReadsAs x e)
    (hx : x ≠ []) (hlevels : x.length ≤ levels) (hr : HeadNot extendsExpr r)
    (hbar : HeadNot (· == '|') (r.dropWhile Text.isBlank)) :
    (expression levels).reader.run (x ++ r) = (e, r.dropWhile Text.isBlank) := by
  have hpos := List.length_pos_iff.mpr hx
  obtain ⟨levels, rfl⟩ : ∃ n, levels = n + 1 := ⟨levels - 1, by omega⟩
  obtain ⟨left, _, hrun⟩ := h levels hlevels
  rw [run_expression_succ, hrun r hr, pipes_of_no_bar hbar.isPrefixOf]

/-- A pipe is read behind its input. -/
lemma ReadsAs.pipe {x y : List Char} {input : Expr} {name : String} {args : List Expr}
    (style : Style) (h : ReadsAs x input) (hname : Text.isName name = true)
    (hargs : OptionalReadAs y args) :
    ReadsAs (x ++ (style.blanks 0 ++ '|' :: (style.blanks 1 ++ (name.toList ++ y))))
      (.pipe input name args) := by
  intro levels hlevels
  obtain ⟨c, t, hc, _⟩ := isName_eq_cons hname
  simp only [List.length_append, List.length_cons, hc] at hlevels
  obtain ⟨left, hleft, hrun⟩ := h levels (by omega)
  -- the input is shorter than the whole, so it leaves a level for this pipe
  obtain ⟨left, rfl⟩ : ∃ n, left = n + 1 := ⟨left - 1, by omega⟩
  refine ⟨left, ?_, fun r hr => ?_⟩
  · simp only [List.length_append, List.length_cons]
    omega
  obtain ⟨hbehind, hrunArgs⟩ := hargs left (by omega) r hr
  have hbar : HeadNot extendsExpr
      (style.blanks 0 ++ '|' :: (style.blanks 1 ++ (name.toList ++ (y ++ r)))) :=
    headNot_blanks (fun c => extendsExpr_of_isBlank) (headNot_cons (by decide))
  simp only [List.append_assoc, List.cons_append]
  rw [hrun _ hbar]
  refine run_pipes_bar hname ?_ ((style.dropWhile_blanks 1 _).trans (dropWhile_name hname _))
    hbehind hrunArgs
  rw [style.dropWhile_blanks, List.dropWhile_cons_of_neg (by decide)]

/-- Nothing is read as no arguments. -/
lemma optionalReadAs_nil : OptionalReadAs [] [] := by
  intro levels _ r hr
  refine ⟨hr.isWordChar, ?_⟩
  exact (expression levels).optionalArguments_none hr.not_parenthesis

/-- Behind an opening parenthesis there are arguments. -/
lemma ArgumentsReadAs.optionalReadAs {x : List Char} {args : List Expr}
    (h : ArgumentsReadAs x args) : OptionalReadAs ('(' :: x) args := by
  intro levels hlevels r _
  rw [List.length_cons] at hlevels
  refine ⟨headNot_cons (by decide), ?_⟩
  rw [ExprReader.optionalArguments, run_bind, List.cons_append, run_eat_cons]
  exact h levels (Nat.le_of_succ_le hlevels) r

/-- A closing parenthesis is read as no more arguments. -/
lemma argumentsReadAs_nil (style : Style) : ArgumentsReadAs (style.blanks 0 ++ [')']) [] := by
  intro levels _ r
  have hclose : (style.blanks 0 ++ [')'] ++ r).dropWhile Text.isBlank = ')' :: r := by
    rw [List.append_assoc, style.dropWhile_blanks]
    rfl
  rw [ExprReader.argumentsFrom_cons hclose, if_pos rfl]

/-- A separator in front of arguments makes no difference. -/
lemma argumentsFrom_separator (style : Style) {e : ExprReader} {separator s : List Char}
    (h : separator = [] ∨ separator = [',']) :
    e.argumentsFrom (style.blanks 0 ++ (separator ++ (style.blanks 1 ++ s))) =
      e.argumentsFrom s := by
  obtain rfl | rfl := h
  · rw [List.nil_append]
    apply ExprReader.argumentsFrom_congr
    rw [style.dropWhile_blanks, style.dropWhile_blanks]
  · have hcomma : (style.blanks 0 ++ ([','] ++ (style.blanks 1 ++ s))).dropWhile Text.isBlank =
        ',' :: (style.blanks 1 ++ s) := by
      rw [style.dropWhile_blanks]
      rfl
    rw [ExprReader.argumentsFrom_cons hcomma, if_neg (by decide), if_pos rfl]
    apply ExprReader.argumentsFrom_congr
    rw [style.dropWhile_blanks]

/-- One more argument is read in front of others, whose source ends it. -/
lemma ArgumentsReadAs.cons (style : Style) {separator x y : List Char} {c : Char} {t : List Char}
    {e : Expr} {es : List Expr} (hsep : separator = [] ∨ separator = [',']) (hx : x = c :: t)
    (hc : beginsExpr c = true) (h : ReadsAs x e) (hmore : ArgumentsReadAs y es)
    (hend : ∀ r, HeadNot extendsExpr (y ++ r) ∧
      HeadNot (· == '|') ((y ++ r).dropWhile Text.isBlank)) :
    ArgumentsReadAs (style.blanks 0 ++ (separator ++ (style.blanks 1 ++ (x ++ y)))) (e :: es) := by
  intro levels hlevels r
  simp only [List.length_append] at hlevels
  have hstart : (x ++ (y ++ r)).dropWhile Text.isBlank = c :: (t ++ (y ++ r)) := by
    rw [hx, List.cons_append]
    exact List.dropWhile_cons_of_neg (by simp [isBlank_of_beginsExpr hc])
  have hfirst : (expression levels).reader.run (c :: (t ++ (y ++ r))) =
      (e, (y ++ r).dropWhile Text.isBlank) := by
    rw [← List.cons_append, ← hx]
    exact h.run_expression (by simp [hx]) (by omega) (hend r).1 (hend r).2
  have hrest : (expression levels).argumentsFrom ((y ++ r).dropWhile Text.isBlank) = (es, r) := by
    rw [← hmore levels (by omega) r]
    apply ExprReader.argumentsFrom_congr
    exact List.dropWhile_idempotent _ _
  simp only [List.append_assoc]
  -- the first character of an expression is none of those that end or separate arguments
  rw [argumentsFrom_separator style hsep, ExprReader.argumentsFrom_cons hstart,
    if_neg (ne_of_beginsExpr hc (by decide)), if_neg (ne_of_beginsExpr hc (by decide)),
    if_neg (ne_of_beginsExpr hc (by decide)), hfirst]
  dsimp only
  rw [hrest]

/-- Behind an argument there is a comma or a closing parenthesis. -/
lemma headNot_argumentsSource (style : Style) (es : List Expr) (r : List Char) :
    HeadNot extendsExpr (argumentsSource style [','] es ++ r) ∧
      HeadNot (· == '|') ((argumentsSource style [','] es ++ r).dropWhile Text.isBlank) := by
  cases es with
  | nil =>
    rw [argumentsSource, List.append_assoc, style.dropWhile_blanks]
    exact ⟨headNot_blanks (fun c => extendsExpr_of_isBlank) (headNot_cons (by decide)),
      headNot_cons (by decide)⟩
  | cons e es =>
    rw [argumentsSource, List.append_assoc, List.append_assoc, style.dropWhile_blanks]
    exact ⟨headNot_blanks (fun c => extendsExpr_of_isBlank) (headNot_cons (by decide)),
      headNot_cons (by decide)⟩

/-- The source of an expression begins with a character that can begin one. -/
lemma source_eq_cons (style : Style) {e : Expr} (h : e.printable = true) :
    ∃ c t, e.source style = c :: t ∧ beginsExpr c = true := by
  cases e with
  | literal v =>
    cases v with
    | null => exact ⟨'n', _, rfl, by decide⟩
    | bool b =>
      cases b with
      | true => exact ⟨'t', _, rfl, by decide⟩
      | false => exact ⟨'f', _, rfl, by decide⟩
    | number x =>
      obtain ⟨c, t, ht, hc⟩ := numeralOf_eq_cons (x.whole?.getD 0)
      refine ⟨c, t, ht, ?_⟩
      obtain rfl | hdigit := hc
      · decide
      · rw [beginsExpr, isWordChar_of_isDigit hdigit]
        rfl
    | string s =>
      refine ⟨style.quote, _, rfl, ?_⟩
      obtain hq | hq := style.quote_eq
      · rw [hq]
        decide
      · rw [hq]
        decide
    | array items => cases h
    | object fields => cases h
  | path segments =>
    cases segments with
    | nil => cases h
    | cons w more =>
      rw [Expr.printable, Bool.and_eq_true] at h
      obtain ⟨c, t, hc, hword⟩ := isName_eq_cons (isFirstName_iff.mp h.1).1
      refine ⟨c, t ++ segmentsSource more, ?_, by rw [beginsExpr, hword]; rfl⟩
      rw [Expr.source, hc, List.cons_append]
  | call name args =>
    rw [Expr.printable, Bool.and_eq_true] at h
    obtain ⟨c, t, hc, hword⟩ := isName_eq_cons (isFirstName_iff.mp h.1).1
    refine ⟨c, t ++ '(' :: argumentsSource (style.part 0) [] args, ?_, by
      rw [beginsExpr, hword]; rfl⟩
    rw [Expr.source, hc, List.cons_append]
  | pipe input name args =>
    rw [Expr.printable, Bool.and_eq_true, Bool.and_eq_true] at h
    obtain ⟨c, t, ht, hc⟩ := source_eq_cons (style.part 0) h.1.1
    rw [Expr.source, ht]
    exact ⟨c, _, rfl, hc⟩

mutual

/-- Every expression that can be written is read back, in every style. -/
theorem Expr.readsAs (style : Style) {e : Expr} (h : e.printable = true) :
    ReadsAs (e.source style) e := by
  obtain ⟨c, t, hsource, _⟩ := source_eq_cons style h
  have hne : e.source style ≠ [] := by rw [hsource]; exact List.cons_ne_nil c t
  cases e with
  | literal v =>
    refine .of_primary hne fun levels _ r hr => ?_
    exact run_primary_literal style h hr
  | path segments =>
    cases segments with
    | nil => cases h
    | cons w more =>
      rw [Expr.printable, Bool.and_eq_true] at h
      refine .of_primary hne fun levels _ r hr => ?_
      rw [Expr.source, List.append_assoc]
      exact run_primary_path h.1 h.2 hr
  | call name args =>
    rw [Expr.printable, Bool.and_eq_true] at h
    refine .of_primary hne fun levels hlevels r _ => ?_
    rw [Expr.source, List.append_assoc, List.cons_append]
    rw [Expr.source, List.length_append, List.length_cons] at hlevels
    exact run_primary_call h.1
      (argumentsReadAs_source (style.part 0) (.inl rfl) h.2 levels (by omega) r)
  | pipe input name args =>
    rw [Expr.printable, Bool.and_eq_true, Bool.and_eq_true] at h
    have hargs := argumentsReadAs_source (style.part 1) (.inl rfl) h.2
    rw [Expr.source]
    refine (Expr.readsAs (style.part 0) h.1.1).pipe style h.1.2 ?_
    split
    · case isTrue hempty =>
      rw [List.isEmpty_iff.mp (Bool.and_eq_true_iff.mp hempty).1]
      exact optionalReadAs_nil
    · exact hargs.optionalReadAs

/-- The source of arguments is read as these arguments. -/
theorem argumentsReadAs_source (style : Style) {separator : List Char} {es : List Expr}
    (hsep : separator = [] ∨ separator = [',']) (h : argumentsPrintable es = true) :
    ArgumentsReadAs (argumentsSource style separator es) es := by
  cases es with
  | nil => exact argumentsReadAs_nil style
  | cons e es =>
    rw [argumentsPrintable, Bool.and_eq_true] at h
    obtain ⟨c, t, ht, hc⟩ := source_eq_cons (style.part 0) h.1
    exact .cons style hsep ht hc (Expr.readsAs (style.part 0) h.1)
      (argumentsReadAs_source (style.part 1) (.inr rfl) h.2)
      (headNot_argumentsSource (style.part 1) es)

end

end Stencil

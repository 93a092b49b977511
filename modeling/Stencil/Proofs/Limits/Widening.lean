import Stencil.Proofs.Limits.CutOff
import Stencil.Proofs.Reading.Steps

/-!
# Wider limits for expressions

Two readers of one kind, the second with wider limits, read the same unless the first one was cut
off. `Reader.Widens cut narrow wide` says so; `cut` describes what the first one leaves when it is
cut off, both the result and the text that remains. Main statement: `expression` with more levels
widens `expression` with fewer (`expression_widens`), where a cut shows as a literal in the
expression and leaves the text at the end of its tag. Because it does, nothing after the cut can
hide the literal: no argument and no pipe is read any more.
-/

namespace Stencil

namespace Reader

variable {α β : Type}

/-- What `wide` reads is what `narrow` reads, unless `narrow` was cut off. -/
def Widens (cut : α → List Char → Prop) (narrow wide : Reader α) : Prop :=
  ∀ s, wide.run s = narrow.run s ∨ cut (narrow.run s).1 (narrow.run s).2

variable {cut : α → List Char → Prop} {cutAfter : β → List Char → Prop}

/-- A reader widens itself. -/
lemma Widens.refl (x : Reader α) : Widens cut x x :=
  fun _ => .inl rfl

/-- Readers of two steps widen if each step does and the second one keeps the cuts of the first. -/
lemma Widens.bind {x y : Reader α} {f g : α → Reader β} (h : Widens cut x y)
    (hfg : ∀ a, Widens cutAfter (f a) (g a))
    (hkeep : ∀ a s, cut a s → cutAfter ((f a).run s).1 ((f a).run s).2) :
    Widens cutAfter (x >>= f) (y >>= g) := by
  intro s
  rw [run_bind, run_bind]
  obtain heq | hcut := h s
  · rw [heq]
    exact hfg _ _
  · exact .inr (hkeep _ _ hcut)

/-- The same where the first step is one reader. -/
lemma Widens.step (x : Reader α) {f g : α → Reader β}
    (hfg : ∀ a, Widens cutAfter (f a) (g a)) : Widens cutAfter (x >>= f) (x >>= g) := by
  intro s
  exact hfg _ _

/-- A choice widens if both sides of it do. -/
lemma Widens.ite {c : Prop} [Decidable c] {x y z w : Reader α} (hthen : Widens cut x z)
    (helse : Widens cut y w) : Widens cut (if c then x else y) (if c then z else w) := by
  by_cases hc : c
  · rw [if_pos hc, if_pos hc]
    exact hthen
  · rw [if_neg hc, if_neg hc]
    exact helse

end Reader

open Reader

/-- What a cut leaves of an expression: a literal that stands for what is too deep, and the end of
the tag. -/
def CutExpr (e : Expr) (s : List Char) : Prop :=
  e.anyLiteral isTooDeep = true ∧ AtTagEnd s

/-- What a cut leaves of some expressions. -/
def CutExprs (es : List Expr) (s : List Char) : Prop :=
  anyLiterals isTooDeep es = true ∧ AtTagEnd s

/-- The reader that cuts off leaves a cut. -/
lemma cutExpr_cutOff (s : List Char) : CutExpr (cutOff.run s).1 (cutOff.run s).2 := by
  refine ⟨?_, atTagEnd_fromClose s⟩
  exact beq_self_eq_true Fault.tooDeep.message

/-- Arguments widen if expressions do. -/
lemma arguments_widens {e f : ExprReader} (h : Widens CutExpr e.reader f.reader) :
    Widens CutExprs e.arguments f.arguments := by
  intro s
  change f.argumentsFrom s = e.argumentsFrom s ∨
    CutExprs (e.argumentsFrom s).1 (e.argumentsFrom s).2
  -- on the length of the text, since a round may take a whole argument or just a comma
  induction hn : s.length using Nat.strongRecOn generalizing s with
  | ind n ih =>
    subst hn
    have hs := (List.dropWhile_sublist (l := s) Text.isBlank).length_le
    cases hr : s.dropWhile Text.isBlank with
    | nil =>
      left
      rw [ExprReader.argumentsFrom_nil hr, ExprReader.argumentsFrom_nil hr]
    | cons c r =>
      rw [hr, List.length_cons] at hs
      rw [ExprReader.argumentsFrom_cons hr, ExprReader.argumentsFrom_cons hr]
      by_cases hclose : c = ')'
      · left
        rw [if_pos hclose, if_pos hclose]
      rw [if_neg hclose, if_neg hclose]
      by_cases hcomma : c = ','
      · rw [if_pos hcomma, if_pos hcomma]
        exact ih r.length hs r rfl
      rw [if_neg hcomma, if_neg hcomma]
      by_cases hend : c = '}'
      · left
        rw [if_pos hend, if_pos hend]
      rw [if_neg hend, if_neg hend]
      have hprogress := e.progress c r hend
      obtain heq | ⟨hcut, htag⟩ := h (c :: r)
      · obtain hmore | ⟨hcut, htag⟩ := ih _ (by omega) (e.reader.run (c :: r)).2 rfl
        · left
          rw [heq, hmore]
        · right
          refine ⟨?_, htag⟩
          rw [anyLiterals, hcut, Bool.or_true]
      · right
        -- the cut has used up the tag, so this argument is the last one
        rw [htag.argumentsFrom e]
        refine ⟨?_, htag⟩
        rw [anyLiterals, hcut, Bool.true_or]

/-- Arguments in parentheses widen if expressions do. -/
lemma optionalArguments_widens {e f : ExprReader} (h : Widens CutExpr e.reader f.reader) :
    Widens CutExprs e.optionalArguments f.optionalArguments := by
  refine Widens.step (eat ['(']) fun opened => ?_
  cases opened with
  | true => exact arguments_widens h
  | false => exact .refl _

/-- What begins with a word widens if expressions do. -/
lemma named_widens {e f : ExprReader} (h : Widens CutExpr e.reader f.reader) :
    Widens CutExpr (named e) (named f) := by
  refine Widens.step word fun name => ?_
  -- constants: no expression is read for them
  refine Widens.ite (.refl _) ?_
  refine Widens.ite (.refl _) ?_
  refine Widens.ite (.refl _) ?_
  -- the parenthesis of a call, or a path
  refine Widens.step (eat ['(']) fun opened => ?_
  cases opened with
  | true =>
    refine (arguments_widens h).bind (fun args => .refl _) fun args s hcut => ?_
    refine ⟨?_, hcut.2⟩
    rw [run_pure, Expr.anyLiteral, hcut.1]
  | false => exact .refl _

/-- An expression without its pipes widens with the expressions in it. -/
lemma primary_widens {e f : ExprReader} (h : Widens CutExpr e.reader f.reader) :
    Widens CutExpr (primary e) (primary f) := by
  refine Widens.step blanks fun _ => Widens.step peek? fun next => ?_
  cases next with
  | none => exact .refl _
  | some c =>
    -- of strings, numerals, names and anything else, only names hold expressions
    refine Widens.ite (.refl _) ?_
    refine Widens.ite (.refl _) ?_
    refine Widens.ite (named_widens h) ?_
    exact .refl _

/-- Expressions and pipes, by one induction on the levels of the narrower limits. -/
lemma expression_pipes_widens (levels : Nat) :
    ∀ wider, levels ≤ wider →
      Widens CutExpr (expression levels).reader (expression wider).reader ∧
        ∀ e, Widens CutExpr (pipes levels e) (pipes wider e) := by
  induction levels with
  | zero =>
    intro wider _
    -- without a level everything is cut off, except where no bar comes and there is nothing to read
    refine ⟨fun s => .inr (cutExpr_cutOff s), fun e s => ?_⟩
    obtain hbar | hbar := Bool.eq_false_or_eq_true (['|'].isPrefixOf (s.dropWhile Text.isBlank))
    · right
      rw [pipes, run_bind, run_blanks, run_bind, run_eat, if_pos hbar]
      exact cutExpr_cutOff _
    · left
      rw [pipes_of_no_bar hbar, pipes_of_no_bar hbar]
  | succ levels ih =>
    intro wider hle
    obtain ⟨wider, rfl⟩ : ∃ n, wider = n + 1 := ⟨wider - 1, by omega⟩
    obtain ⟨hexpr, hpipes⟩ := ih wider (Nat.le_of_succ_le_succ hle)
    refine ⟨?_, fun e => ?_⟩
    · refine (primary_widens hexpr).bind hpipes fun e s hcut => ?_
      rw [hcut.2.pipes]
      exact hcut
    · rw [pipes, pipes]
      refine Widens.step blanks fun _ => Widens.step (eat ['|']) fun bar => ?_
      cases bar with
      | false => exact .refl _
      | true =>
        refine Widens.step blanks fun _ => Widens.step word fun name => ?_
        refine (optionalArguments_widens hexpr).bind (fun args => hpipes _) fun args s hcut => ?_
        rw [hcut.2.pipes]
        refine ⟨?_, hcut.2⟩
        rw [Expr.anyLiteral, hcut.1, Bool.or_true]

/-- Expressions widen with their levels. -/
theorem expression_widens {levels wider : Nat} (h : levels ≤ wider) :
    Widens CutExpr (expression levels).reader (expression wider).reader :=
  (expression_pipes_widens levels wider h).1

/-- The expression of a tag widens with the limit. -/
lemma head_widens {depth wider : Nat} (h : depth ≤ wider) :
    Widens CutExpr (head depth) (head wider) := by
  refine Widens.step blanks fun _ => Widens.step atEnd fun empty => ?_
  refine Widens.step (isAt _) fun closed => Widens.step (isAt _) fun rawClosed => ?_
  split
  · exact .refl _
  · exact expression_widens h

end Stencil

import Stencil.Proofs.Limits.CutOff
import Stencil.Proofs.Tree.ReadTemplate

/-!
# How deep expressions go

The limit on expressions is a budget for what is open while a tag is read: the expression, the calls
and pipes whose arguments are being read, and the pipes that have been taken behind what is being
read. `Expr.opened` counts these levels in the finished tree, and they never pass the limit.

The levels of the tree itself are counted from the outside, and a pipe is further out than its
input. `Expr.nesting` counts these. An input has been read before its pipe, so the levels of its
arguments are free again when the pipe takes one. Therefore the limit is one on nesting, too, where
no pipe has an input with arguments (`Template.parse_opened`), but not beyond
(`Template.parse_nesting_exceeds`).
-/

namespace Stencil

namespace Expr

/-- The levels of a literal: one, but none if it takes the place of what was cut off. So such a
literal may stand just below the last level. -/
def literalLevels : Value → Nat
  | .string s => if isTooDeep s then 0 else 1
  | _ => 1

mutual

/-- How many levels there are in an expression: itself, and below a call or a pipe its arguments and
its input. -/
def nesting : Expr → Nat
  | .literal v => literalLevels v
  | .path _ => 1
  | .call _ args => 1 + nestingOf args
  | .pipe input _ args => 1 + max input.nesting (nestingOf args)

/-- The levels in the deepest of some expressions. -/
def nestingOf : List Expr → Nat
  | [] => 0
  | e :: es => max e.nesting (nestingOf es)

end

/-- The number of pipes behind the base of an expression. -/
def pipeCount : Expr → Nat
  | .pipe input _ _ => input.pipeCount + 1
  | _ => 0

mutual

/-- How many levels are open at once while an expression is read: one for the base, one for each
pipe behind it that has been taken, and below these the levels of the arguments that are being
read. -/
def opened : Expr → Nat
  | .literal v => literalLevels v
  | .path _ => 1
  | .call _ args => 1 + openedBy args
  | .pipe input _ args => max input.opened (input.pipeCount + 2 + openedBy args)

/-- The most levels that the counter gets to in one of some expressions. -/
def openedBy : List Expr → Nat
  | [] => 0
  | e :: es => max e.opened (openedBy es)

end

/-- Whether an expression has arguments, at its base or in its pipes. -/
def hasArguments : Expr → Bool
  | .call _ args => !args.isEmpty
  | .pipe input _ args => input.hasArguments || !args.isEmpty
  | _ => false

/-- The input of a pipe has no arguments. -/
def TakesPlainInput : Expr → Prop
  | .pipe input _ _ => input.hasArguments = false
  | _ => True

/-- A literal is at most one level. -/
lemma literalLevels_le_one (v : Value) : literalLevels v ≤ 1 := by
  unfold literalLevels
  split
  · split
    · exact Nat.zero_le 1
    · exact Nat.le_refl 1
  · exact Nat.le_refl 1

/-- A bound on the levels of some expressions is one on the levels of each. -/
lemma nestingOf_le_iff {n : Nat} {es : List Expr} :
    nestingOf es ≤ n ↔ ∀ e ∈ es, e.nesting ≤ n := by
  induction es with
  | nil => simp [nestingOf]
  | cons e es ih => rw [nestingOf, Nat.max_le, ih, List.forall_mem_cons]

/-- A bound on what the counter gets to in some expressions is one for each. -/
lemma openedBy_le_iff {n : Nat} {es : List Expr} :
    openedBy es ≤ n ↔ ∀ e ∈ es, e.opened ≤ n := by
  induction es with
  | nil => simp [openedBy]
  | cons e es ih => rw [openedBy, Nat.max_le, ih, List.forall_mem_cons]

/-- Without arguments, an expression has a level for its base and one for each pipe. -/
lemma nesting_le_of_plain {e : Expr} (h : e.hasArguments = false) :
    e.nesting ≤ e.pipeCount + 1 := by
  induction e using pipeCount.induct with
  | case1 input name args ih =>
    rw [hasArguments, Bool.or_eq_false_iff] at h
    obtain rfl : args = [] := by simpa using h.2
    have hinput := ih h.1
    rw [nesting, nestingOf, pipeCount]
    omega
  | case2 e hpipe =>
    cases e with
    | literal v => exact literalLevels_le_one v
    | path segments => exact Nat.le_refl 1
    | call name args =>
      obtain rfl : args = [] := by simpa [hasArguments] using h
      exact Nat.le_refl 1
    | pipe input name args => exact absurd rfl (hpipe input name args)

/-- Where no input of a pipe has arguments, all levels are open at once while the last of them is
read. -/
lemma nesting_le_opened {e : Expr} (h : e.Every TakesPlainInput) : e.nesting ≤ e.opened := by
  have hargs {args : List Expr} (h : ∀ e ∈ args, e.nesting ≤ e.opened) :
      nestingOf args ≤ openedBy args :=
    nestingOf_le_iff.mpr fun e he =>
      Nat.le_trans (h e he) (openedBy_le_iff.mp (Nat.le_refl _) e he)
  induction h with
  | literal _ => rw [nesting, opened]
  | path _ => exact Nat.le_refl 1
  | call _ _ ih =>
    rw [nesting, opened]
    exact Nat.add_le_add_left (hargs ih) 1
  | pipe hplain _ _ _ ih =>
    have hinput := nesting_le_of_plain hplain
    have hpipe := hargs ih
    rw [nesting, opened]
    omega

end Expr

/-- Levels that are open are bounded by those that there are: the ones that are left for pipes are
exactly those that the base and the pipes have not taken. -/
lemma opened_invariant : ExprInvariant (fun levels e => e.opened ≤ levels)
    fun levels left e => e.pipeCount + 1 + left = levels ∧ e.opened ≤ levels where
  cutOff levels := Nat.zero_le levels
  literal {left v} _ := by
    have hlevels := Expr.literalLevels_le_one v
    rw [Expr.opened, Expr.pipeCount]
    · omega
    · exact nofun
  path {left segments} _ := by
    rw [Expr.opened, Expr.pipeCount]
    · omega
    · exact nofun
  call {left name args} _ hargs := by
    have hopened := Expr.openedBy_le_iff.mpr hargs
    rw [Expr.opened, Expr.pipeCount]
    · omega
    · exact nofun
  pipe {levels left input name args} hinput _ hargs := by
    have hopened := Expr.openedBy_le_iff.mpr hargs
    rw [Expr.opened, Expr.pipeCount]
    omega
  finish h := h.2

namespace Template

/-- No more levels are ever open than the limit allows, in any tag of any template; and where no
pipe has an input with arguments, no expression is nested deeper. -/
theorem parse_opened {limits : Limits} (hdepth : 1 ≤ limits.depth) (s : String) :
    (parse limits s).Every (fun _ => True) fun e =>
      e.opened ≤ limits.depth ∧ (e.Every Expr.TakesPlainInput → e.nesting ≤ limits.depth) := by
  have hopened : (Reader.head limits.depth).Yields fun e => e.opened ≤ limits.depth :=
    opened_invariant.head_yields hdepth
  refine parse_every (hopened.mono fun e he => ⟨he, fun hplain => ?_⟩) (fun _ _ _ => trivial)
    trivial s
  exact Nat.le_trans (Expr.nesting_le_opened hplain) he

/-- Three levels are enough for a call and two pipes, which are nested four deep. -/
theorem parse_opened_of_pipes :
    1 ≤ (Limits.mk 3 none).depth ∧
      (parse ⟨3, none⟩ "{{ f(a) | g | h }}").Every (fun _ => True) fun e =>
        e.opened ≤ 3 ∧ (e.Every Expr.TakesPlainInput → e.nesting ≤ 3) := by
  have hdepth : 1 ≤ (Limits.mk 3 none).depth := by decide
  exact ⟨hdepth, parse_opened hdepth _⟩

/-- With two levels, a pipe behind a call with an argument is nested three deep, and nothing is cut
off. -/
theorem parse_nesting_exceeds :
    ¬(parse ⟨2, none⟩ "{{ f(a) | g }}").Every (fun _ => True) fun e => e.nesting ≤ 2 := by
  have hdeep : ((parse ⟨2, none⟩ "{{ f(a) | g }}").nodes.any fun
      | .interpolation e _ => decide (2 < e.nesting)
      | _ => false) = true := by
    decide +kernel
  rintro ⟨_, h⟩
  obtain ⟨n, hn, htest⟩ := List.any_eq_true.mp hdeep
  cases h n hn with
  | interpolation hnesting =>
    exact absurd hnesting (Nat.not_le.mpr (of_decide_eq_true htest))
  | _ => contradiction

end Template

end Stencil

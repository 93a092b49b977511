import Stencil.Proofs.Source.Expression
import Stencil.Proofs.Tree.Form

/-!
# What is read as an expression

A reader yields results of some kind if all its results are of that kind, whatever the text is
(`Reader.Yields`), and leaves what is of some kind if that holds of its results together with the
text behind them (`Reader.Leaves`).

What the reader of expressions can make of a text is said once, by the fields of `CutInvariant`:
what it begins with, how a call and a pipe are put together, and what takes the place of an
expression that is too deep. Once something was cut off the tag is over, and no more arguments and
pipes are put around it; so a cut expression need not have the property of the others, but only a
weaker one. A pair of properties that these steps keep holds of every expression that is read, the
stronger one unless its tag ends behind it (`CutInvariant.expression_leaves`). For a property that a
cut does not hurt, there is the plainer `ExprInvariant` (`ExprInvariant.head_yields`).
-/

namespace Stencil

namespace Reader

variable {α β : Type} {p : α → Prop} {q : β → Prop}

/-- Every result of a reader is of some kind. -/
def Yields (p : α → Prop) (x : Reader α) : Prop :=
  ∀ s, p (x.run s).1

/-- A result that is there is of its kind. -/
lemma Yields.pure {a : α} (h : p a) : Yields p (pure a : Reader α) :=
  fun _ => h

/-- What is of a kind is of a wider one. -/
lemma Yields.mono {x : Reader α} {r : α → Prop} (h : Yields p x) (hr : ∀ a, p a → r a) :
    Yields r x :=
  fun s => hr _ (h s)

/-- A reader of two steps yields what its second step does with a result of the first. -/
lemma Yields.bind {x : Reader α} {f : α → Reader β} (h : Yields p x)
    (hf : ∀ a, p a → Yields q (f a)) : Yields q (x >>= f) :=
  fun s => hf _ (h s) _

/-- The same where the result of the first step does not matter. -/
lemma Yields.step (x : Reader α) {f : α → Reader β} (hf : ∀ a, Yields q (f a)) :
    Yields q (x >>= f) :=
  fun _ => hf _ _

/-- A choice yields what both sides of it do. -/
lemma Yields.ite {c : Prop} [Decidable c] {x y : Reader α} (hthen : c → Yields p x)
    (helse : ¬c → Yields p y) : Yields p (if c then x else y) := by
  by_cases hc : c
  · rw [if_pos hc]
    exact hthen hc
  · rw [if_neg hc]
    exact helse hc

/-- What a reader leaves is of some kind: a result and the text behind it. -/
def Leaves (r : α → List Char → Prop) (x : Reader α) : Prop :=
  ∀ s, r (x.run s).1 (x.run s).2

variable {r : α → List Char → Prop} {t : β → List Char → Prop}

/-- A result that is there fits to every text that is left. -/
lemma Leaves.pure {a : α} (h : ∀ s, r a s) : Leaves r (pure a : Reader α) :=
  h

/-- A reader of two steps leaves what its second step does behind what the first one left. -/
lemma Leaves.bind {x : Reader α} {f : α → Reader β} (h : Leaves r x)
    (hf : ∀ a s, r a s → t ((f a).run s).1 ((f a).run s).2) : Leaves t (x >>= f) :=
  fun s => hf _ _ (h s)

/-- The same where only the result of the first step matters. -/
lemma Yields.leaves_bind {x : Reader α} {f : α → Reader β} (h : Yields p x)
    (hf : ∀ a, p a → Leaves t (f a)) : Leaves t (x >>= f) :=
  fun s => hf _ (h s) _

/-- The same where nothing of the first step matters. -/
lemma Leaves.step (x : Reader α) {f : α → Reader β} (hf : ∀ a, Leaves t (f a)) :
    Leaves t (x >>= f) :=
  fun _ => hf _ _

/-- A choice leaves what both sides of it do. -/
lemma Leaves.ite {c : Prop} [Decidable c] {x y : Reader α} (hthen : c → Leaves r x)
    (helse : ¬c → Leaves r y) : Leaves r (if c then x else y) := by
  by_cases hc : c
  · rw [if_pos hc]
    exact hthen hc
  · rw [if_neg hc]
    exact helse hc

end Reader

open Reader

/-- Characters of words make a word. -/
lemma isWord_takeWhile (s : List Char) :
    Text.isWord (String.ofList (s.takeWhile Text.isWordChar)) = true := by
  rw [Text.isWord, String.toList_ofList]
  exact List.all_takeWhile

/-- What is taken as a word is one. -/
lemma word_yields : word.Yields fun w => Text.isWord w = true :=
  isWord_takeWhile

/-- All segments after the first one are words. -/
lemma segments_yields : segments.Yields fun more => more.all Text.isWord = true := by
  intro s
  change (segmentsFrom s).1.all Text.isWord = true
  fun_induction segmentsFrom s with
  | case1 s more ih => rw [List.all_cons, isWord_takeWhile, ih, Bool.and_self]
  | case2 s => rfl

/-- The word in front of a text is the name of a call, or the first segment of a path, if it begins
with no digit and is no constant. -/
lemma isFirstName_takeWhile {c : Char} (s : List Char) (hword : Text.isWordChar c = true)
    (hdigit : c.isDigit = false) {w : String}
    (hw : w = String.ofList ((c :: s).takeWhile Text.isWordChar)) (htrue : w ≠ "true")
    (hfalse : w ≠ "false") (hnull : w ≠ "null") : isFirstName w = true := by
  have hlist : w.toList = c :: s.takeWhile Text.isWordChar := by
    rw [hw, String.toList_ofList, List.takeWhile_cons_of_pos hword]
  refine isFirstName_iff.mpr ⟨?_, ?_, htrue, hfalse, hnull⟩
  · have hnonempty : w.isEmpty = false := by
      rw [String.isEmpty_eq_false_iff]
      rintro rfl
      contradiction
    rw [Text.isName, hnonempty, hw, isWord_takeWhile]
    rfl
  · intro d t hd
    rw [hlist] at hd
    cases hd
    exact hdigit

/-- A decimal is a number. -/
lemma isLiteral_ofDecimal (negative : Bool) (d : Decimal) :
    (Value.number (.ofDecimal negative d)).isLiteral = true := by
  rw [Value.isLiteral, Number.ofDecimal]
  cases d.nearest? with
  | some m => rfl
  | none => rfl

/-- Signs without digits are a path. -/
lemma isPath_signs : ∀ minus point : Bool, (minus || point) = true →
    isPath [String.ofList ((if minus = true then ['-'] else []) ++
      if point = true then ['.'] else [])] = true := by
  decide

section
variable {p : Expr → List Char → Prop}
  (hliteral : ∀ v s, v.isLiteral = true → p (.literal v) s)
  (hpath : ∀ segments s, isPath segments = true → p (.path segments) s)
include hliteral hpath

/-- A numeral is a number, or a path of signs. -/
lemma numeral_leaves {c : Char} (s : List Char) (h : c = '-' ∨ c = '.' ∨ c.isDigit = true) :
    p (numeral.run (c :: s)).1 (numeral.run (c :: s)).2 := by
  have hnumber (minus : Bool) (d : Decimal) (r : List Char) :
      p (.literal (.number (.ofDecimal minus d))) r :=
    hliteral _ r (isLiteral_ofDecimal minus d)
  unfold numeral
  by_cases hminus : c = '-'
  · subst hminus
    rw [run_bind, run_eat_cons]
    refine Leaves.step (takeWhile _) (fun whole => Leaves.step (eat _) fun point => ?_) s
    cases point with
    | true =>
      refine Leaves.step (takeWhile _) fun fraction => ?_
      exact Leaves.ite (fun _ => .pure fun r => hpath _ r (isPath_signs true true rfl))
        fun _ => .pure (hnumber _ _)
    | false =>
      refine Leaves.step (pure []) fun fraction => ?_
      exact Leaves.ite (fun _ => .pure fun r => hpath _ r (isPath_signs true false rfl))
        fun _ => .pure (hnumber _ _)
  have heat : (eat ['-']).run (c :: s) = (false, c :: s) := by
    refine HeadNot.run_eat (headNot_cons ?_)
    exact beq_eq_false_iff_ne.mpr hminus
  rw [run_bind, heat, run_bind, run_takeWhile]
  by_cases hdigit : c.isDigit = true
  · rw [List.takeWhile_cons_of_pos hdigit]
    refine Leaves.step (eat _) (fun point => ?_) _
    have hend (fraction : List Char) : Leaves p (pure (.literal (.number
        (.ofDecimal false (.ofParts (c :: s.takeWhile Char.isDigit) fraction 0))))) :=
      .pure (hnumber _ _)
    cases point with
    | true => exact Leaves.step (takeWhile _) hend
    | false => exact Leaves.step (pure []) hend
  · obtain rfl : c = '.' := by simpa [hminus, hdigit] using h
    rw [List.takeWhile_cons_of_neg hdigit, List.dropWhile_cons_of_neg hdigit, run_bind,
      run_eat_cons]
    refine Leaves.step (takeWhile _) (fun fraction => ?_) s
    exact Leaves.ite (fun _ => .pure fun r => hpath _ r (isPath_signs false true rfl))
      fun _ => .pure (hnumber _ _)

section
variable {inner : ExprReader} {q : List Expr → List Char → Prop} (hargs : inner.arguments.Leaves q)
  (hcall : ∀ name args s, isFirstName name = true → q args s → p (.call name args) s)
include hargs hcall

/-- What begins with a letter is a constant, a call or a path. -/
lemma named_leaves {c : Char} (s : List Char) (hword : Text.isWordChar c = true)
    (hdigit : c.isDigit = false) :
    p ((named inner).run (c :: s)).1 ((named inner).run (c :: s)).2 := by
  unfold named
  rw [run_bind, run_word]
  refine Leaves.ite (fun _ => .pure fun r => hliteral _ r rfl) (fun hnull => ?_) _
  refine Leaves.ite (fun _ => .pure fun r => hliteral _ r rfl) fun htrue => ?_
  refine Leaves.ite (fun _ => .pure fun r => hliteral _ r rfl) fun hfalse => ?_
  have hname := isFirstName_takeWhile s hword hdigit rfl htrue hfalse hnull
  refine Leaves.step (eat _) fun opened => ?_
  cases opened with
  | true => exact hargs.bind fun args r h => hcall _ args r hname h
  | false =>
    refine segments_yields.leaves_bind fun more hmore => .pure fun r => hpath _ r ?_
    rw [isPath, hname, hmore, Bool.and_self, Bool.or_true]

/-- An expression without its pipes is a literal, a path or a call. -/
lemma primary_leaves : (primary inner).Leaves p := by
  intro s
  cases hs : s.dropWhile Text.isBlank with
  | nil =>
    rw [primary, run_bind, run_blanks, hs]
    exact hliteral _ _ rfl
  | cons c r =>
    have hblank : Text.isBlank c = false := headNot_dropWhile Text.isBlank s c (by rw [hs]; rfl)
    rw [run_primary_congr (t := c :: r) (by rw [List.dropWhile_cons_of_neg (by simp [hblank]), hs]),
      run_primary_cons hblank]
    split
    · exact hliteral _ _ rfl
    · split
      · case isTrue h => exact numeral_leaves hliteral hpath r h
      · case isFalse h =>
        split
        · case isTrue hword =>
          have hdigit : c.isDigit = false := by
            rw [← Bool.not_eq_true]
            exact fun hdigit => h (.inr (.inr hdigit))
          exact named_leaves hliteral hpath hargs hcall r hword hdigit
        · exact hliteral _ _ rfl

end

end

/-- An expression that has been read: all is well with it, unless it was cut off. -/
def UnlessCut (sound cut : Expr → Prop) (e : Expr) (s : List Char) : Prop :=
  cut e ∧ (sound e ∨ AtTagEnd s)

/-- Arguments that have been read: all is well with them, unless the last one was cut off. -/
def AllUnlessCut (sound cut : Expr → Prop) (es : List Expr) (s : List Char) : Prop :=
  (∀ e ∈ es, cut e) ∧ ((∀ e ∈ es, sound e) ∨ AtTagEnd s)

section
variable {inner : ExprReader} {sound cut : Expr → Prop}
  (h : inner.reader.Leaves (UnlessCut sound cut))
include h

/-- Arguments are read one by one by the reader of expressions. -/
lemma arguments_leaves : inner.arguments.Leaves (AllUnlessCut sound cut) := by
  intro s
  change AllUnlessCut sound cut (inner.argumentsFrom s).1 (inner.argumentsFrom s).2
  have hnone (r : List Char) : AllUnlessCut sound cut [] r := ⟨nofun, .inl nofun⟩
  -- on the length of the text, since a round may take a whole argument or just a comma
  induction hn : s.length using Nat.strongRecOn generalizing s with
  | ind n ih =>
    subst hn
    have hs := (List.dropWhile_sublist (l := s) Text.isBlank).length_le
    cases hr : s.dropWhile Text.isBlank with
    | nil =>
      rw [ExprReader.argumentsFrom_nil hr]
      exact hnone _
    | cons c r =>
      rw [hr, List.length_cons] at hs
      rw [ExprReader.argumentsFrom_cons hr]
      by_cases hclose : c = ')'
      · rw [if_pos hclose]
        exact hnone _
      rw [if_neg hclose]
      by_cases hcomma : c = ','
      · rw [if_pos hcomma]
        exact ih r.length hs r rfl
      rw [if_neg hcomma]
      by_cases hend : c = '}'
      · rw [if_pos hend]
        exact hnone _
      rw [if_neg hend]
      have hprogress := inner.progress c r hend
      obtain ⟨hcut, hfirst⟩ := h (c :: r)
      obtain ⟨hcuts, hrest⟩ := ih _ (by omega) (inner.reader.run (c :: r)).2 rfl
      refine ⟨List.forall_mem_cons.mpr ⟨hcut, hcuts⟩, ?_⟩
      obtain hsound | htag := hfirst
      · exact hrest.imp_left fun hsounds => List.forall_mem_cons.mpr ⟨hsound, hsounds⟩
      · -- this argument is the last one, since its tag is over
        right
        rw [htag.argumentsFrom]
        exact htag

/-- Arguments in parentheses are read by the reader of arguments, if there are any. -/
lemma optionalArguments_leaves : inner.optionalArguments.Leaves (AllUnlessCut sound cut) := by
  refine Leaves.step (eat _) fun opened => ?_
  cases opened with
  | true => exact arguments_leaves h
  | false => exact .pure fun s => ⟨nofun, .inl nofun⟩

end

/-- Properties of expressions that have been read with some levels, `sound` and the weaker `cut`,
and a property of expressions that are begun: some of the levels are left for the pipes behind them.
They are kept by all that the reader of expressions does, where `cut` is all that is asked of what
may have been cut off. -/
structure CutInvariant (sound cut : Nat → Expr → Prop) (begun : Nat → Nat → Expr → Prop) :
    Prop where
  cutOff : ∀ levels, cut levels (.literal (.string Fault.tooDeep.message))
  literal : ∀ {left} {v : Value}, v.isLiteral = true → begun (left + 1) left (.literal v)
  path : ∀ {left segments}, isPath segments = true → begun (left + 1) left (.path segments)
  call : ∀ {left name args}, isFirstName name = true → (∀ e ∈ args, sound left e) →
    begun (left + 1) left (.call name args)
  cutCall : ∀ {left name args}, isFirstName name = true → (∀ e ∈ args, cut left e) →
    cut (left + 1) (.call name args)
  pipe : ∀ {levels left input name args}, begun levels (left + 1) input →
    Text.isWord name = true → (∀ e ∈ args, sound left e) →
    begun levels left (.pipe input name args)
  cutPipe : ∀ {levels left input name args}, begun levels (left + 1) input →
    Text.isWord name = true → (∀ e ∈ args, cut left e) → cut levels (.pipe input name args)
  finish : ∀ {levels left e}, begun levels left e → sound levels e
  weaken : ∀ {levels e}, sound levels e → cut levels e

namespace CutInvariant

variable {sound cut : Nat → Expr → Prop} {begun : Nat → Nat → Expr → Prop}
  (h : CutInvariant sound cut begun)
include h

/-- What cuts an expression off leaves the end of the tag. -/
lemma cutOff_leaves (levels : Nat) :
    Reader.cutOff.Leaves (UnlessCut (sound levels) (cut levels)) :=
  fun s => ⟨h.cutOff levels, .inr (atTagEnd_fromClose s)⟩

/-- Without a bar there are no more pipes. -/
lemma unlessCut_of_begun {levels left : Nat} {e : Expr} (he : begun levels left e)
    (s : List Char) : UnlessCut (sound levels) (cut levels) e s :=
  ⟨h.weaken (h.finish he), .inl (h.finish he)⟩

/-- An expression without its pipes is begun, or its call is over with the tag. -/
lemma primary_leaves {left : Nat}
    (hexpr : (expression left).reader.Leaves (UnlessCut (sound left) (cut left))) :
    (primary (expression left)).Leaves fun e s =>
      begun (left + 1) left e ∨ (cut (left + 1) e ∧ AtTagEnd s) := by
  refine Stencil.primary_leaves (fun v s hv => .inl (h.literal hv))
    (fun segments s hpath => .inl (h.path hpath)) (arguments_leaves hexpr)
    fun name args s hname hargs => ?_
  obtain ⟨hcuts, hsounds | htag⟩ := hargs
  · exact .inl (h.call hname hsounds)
  · exact .inr ⟨h.cutCall hname hcuts, htag⟩

/-- Expressions and pipes, by one induction on the levels that are left. -/
lemma expression_pipes_leaves (left : Nat) :
    (expression left).reader.Leaves (UnlessCut (sound left) (cut left)) ∧
      ∀ levels e, begun levels left e →
        (pipes left e).Leaves (UnlessCut (sound levels) (cut levels)) := by
  induction left with
  | zero =>
    refine ⟨h.cutOff_leaves 0, fun levels e he => ?_⟩
    refine Leaves.step blanks fun _ => Leaves.step (eat _) fun bar => ?_
    cases bar with
    | true => exact h.cutOff_leaves levels
    | false => exact .pure (h.unlessCut_of_begun he)
  | succ left ih =>
    obtain ⟨hexpr, hpipes⟩ := ih
    refine ⟨(h.primary_leaves hexpr).bind fun e s he => ?_, fun levels e he => ?_⟩
    · obtain hbegun | ⟨hcut, htag⟩ := he
      · exact hpipes (left + 1) e hbegun s
      · -- the tag is over, so no pipe is read behind the call
        rw [htag.pipes]
        exact ⟨hcut, .inr htag⟩
    · rw [pipes]
      refine Leaves.step blanks fun _ => Leaves.step (eat _) fun bar => ?_
      cases bar with
      | false => exact .pure (h.unlessCut_of_begun he)
      | true =>
        refine Leaves.step blanks fun _ => word_yields.leaves_bind fun name hname => ?_
        refine (optionalArguments_leaves hexpr).bind fun args s hargs => ?_
        obtain ⟨hcuts, hsounds | htag⟩ := hargs
        · exact hpipes levels _ (h.pipe he hname hsounds) s
        · rw [htag.pipes]
          exact ⟨h.cutPipe he hname hcuts, .inr htag⟩

/-- Expressions that have been read with some levels have the properties for these levels, the
stronger one unless their tag is over. -/
theorem expression_leaves (levels : Nat) :
    (expression levels).reader.Leaves (UnlessCut (sound levels) (cut levels)) :=
  (h.expression_pipes_leaves levels).1

/-- All that stands at the heads of tags has the weaker property, if `null` in an empty tag has
it. -/
theorem head_yields {levels : Nat} (hempty : cut levels (.literal .null)) :
    (head levels).Yields (cut levels) := by
  refine Yields.step blanks fun _ => Yields.step atEnd fun empty => ?_
  refine Yields.step (isAt _) fun closed => Yields.step (isAt _) fun rawClosed => ?_
  exact Yields.ite (fun _ => .pure hempty) fun _ s => (h.expression_leaves levels s).1

end CutInvariant

/-- A property of expressions that have been read with some levels, and a property of expressions
that are begun: some of the levels are left for the pipes behind them. Both are kept by all that the
reader of expressions does. -/
structure ExprInvariant (whole : Nat → Expr → Prop) (begun : Nat → Nat → Expr → Prop) : Prop where
  cutOff : ∀ levels, whole levels (.literal (.string Fault.tooDeep.message))
  literal : ∀ {left} {v : Value}, v.isLiteral = true → begun (left + 1) left (.literal v)
  path : ∀ {left segments}, isPath segments = true → begun (left + 1) left (.path segments)
  call : ∀ {left name args}, isFirstName name = true → (∀ e ∈ args, whole left e) →
    begun (left + 1) left (.call name args)
  pipe : ∀ {levels left input name args}, begun levels (left + 1) input →
    Text.isWord name = true → (∀ e ∈ args, whole left e) →
    begun levels left (.pipe input name args)
  finish : ∀ {levels left e}, begun levels left e → whole levels e

namespace ExprInvariant

variable {whole : Nat → Expr → Prop} {begun : Nat → Nat → Expr → Prop}
  (h : ExprInvariant whole begun)
include h

/-- What a cut does not hurt need not be weakened. -/
lemma cutInvariant : CutInvariant whole whole begun where
  cutOff := h.cutOff
  literal := h.literal
  path := h.path
  call := h.call
  cutCall hname hargs := h.finish (h.call hname hargs)
  pipe := h.pipe
  cutPipe hinput hname hargs := h.finish (h.pipe hinput hname hargs)
  finish := h.finish
  weaken hwhole := hwhole

/-- All that stands at the heads of tags has the property, if `null` in an empty tag has it. -/
theorem head_yields {levels : Nat} (hempty : whole levels (.literal .null)) :
    (head levels).Yields (whole levels) :=
  h.cutInvariant.head_yields hempty

end ExprInvariant

end Stencil

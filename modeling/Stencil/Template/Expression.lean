import Stencil.Template.Tree
import Stencil.Template.Literal

/-!
# Reading expressions

An expression is a literal, a path or a call, followed by any number of pipes. Reading never fails:
a character that begins nothing is stepped over and counts as `null`. How deep expressions may go
inside one another is a budget that shrinks with every level and every pipe; where it is used up,
the rest of the tag is dropped and a message takes the place of the expression.
-/

namespace Stencil

/-- A reader of expressions that takes at least one character unless a `}` comes first. -/
structure ExprReader where
  reader : Reader Expr
  progress : ∀ c s, c ≠ '}' → (reader.run (c :: s)).2.length ≤ s.length

namespace ExprReader

/-- The arguments after an opening parenthesis. They end after a closing one, and also before a `}`
or at the end of the text. -/
def argumentsFrom (e : ExprReader) (s : List Char) : List Expr × List Char :=
  match h : s.dropWhile Text.isBlank with
  | [] => ([], [])
  | c :: r =>
    have hr : r.length < s.length := by
      have := (List.dropWhile_sublist (l := s) Text.isBlank).length_le
      rwa [h] at this
    if c = ')' then ([], r)
    else if c = ',' then argumentsFrom e r
    else if hc : c = '}' then ([], c :: r)
    else
      have hx : (e.reader.run (c :: r)).2.length ≤ r.length := e.progress c r hc
      let x := e.reader.run (c :: r)
      let xs := argumentsFrom e x.2
      (x.1 :: xs.1, xs.2)
termination_by s.length

/-- Arguments leave no more text than there was. -/
theorem argumentsFrom_length_le (e : ExprReader) (s : List Char) :
    (e.argumentsFrom s).2.length ≤ s.length := by
  induction hn : s.length using Nat.strongRecOn generalizing s with
  | ind n ih =>
    subst hn
    have hs := (List.dropWhile_sublist (l := s) Text.isBlank).length_le
    unfold argumentsFrom
    split
    · exact Nat.zero_le _
    · case h_2 c r h =>
      rw [h, List.length_cons] at hs
      split
      · exact Nat.le_of_succ_le hs
      · split
        · exact Nat.le_trans (ih r.length hs r rfl) (Nat.le_of_succ_le hs)
        · split
          · exact hs
          · case isFalse hc =>
            have hx := e.progress c r hc
            have := ih _ (by omega) (e.reader.run (c :: r)).2 rfl
            dsimp only
            omega

/-- Takes the arguments after an opening parenthesis. -/
def arguments (e : ExprReader) : Reader (List Expr) :=
  ⟨e.argumentsFrom, e.argumentsFrom_length_le⟩

/-- Takes arguments in parentheses; there need not be any. -/
def optionalArguments (e : ExprReader) : Reader (List Expr) := do
  if ← Reader.eat ['('] then e.arguments else pure []

end ExprReader

/-- The segments of a path after its first one, each behind a point. -/
def segmentsFrom : List Char → List String × List Char
  | '.' :: s =>
    let more := segmentsFrom (s.dropWhile Text.isWordChar)
    (String.ofList (s.takeWhile Text.isWordChar) :: more.1, more.2)
  | s => ([], s)
termination_by s => s.length
decreasing_by
  exact Nat.lt_succ_of_le (List.dropWhile_sublist _).length_le

/-- Segments leave no more text than there was. -/
theorem segmentsFrom_length_le (s : List Char) : (segmentsFrom s).2.length ≤ s.length := by
  fun_induction segmentsFrom s with
  | case1 s more ih =>
    exact Nat.le_succ_of_le (Nat.le_trans ih (List.dropWhile_sublist _).length_le)
  | case2 s => exact Nat.le_refl _

/-- Takes the segments of a path after its first one. -/
def Reader.segments : Reader (List String) :=
  ⟨segmentsFrom, segmentsFrom_length_le⟩

/-- Takes a word and what it begins: a constant, a call or a path. -/
def Reader.named (inner : ExprReader) : Reader Expr := do
  let name ← Reader.word
  if name = "null" then pure (.literal .null)
  else if name = "true" then pure (.literal (.bool true))
  else if name = "false" then pure (.literal (.bool false))
  else if ← Reader.eat ['('] then
    let args ← inner.arguments
    pure (.call name args)
  else
    let more ← Reader.segments
    pure (.path (name :: more))

/-- Takes an expression without its pipes. -/
def Reader.primary (inner : ExprReader) : Reader Expr := do
  Reader.blanks
  match ← Reader.peek? with
  | none => pure (.literal .null)
  | some c =>
    if c = '"' ∨ c = '\'' then
      Reader.skip 1
      let s ← Reader.quotedText c
      pure (.literal (.string s))
    else if c = '-' ∨ c = '.' ∨ c.isDigit then Reader.numeral
    else if Text.isWordChar c then Reader.named inner
    else
      Reader.skip 1
      pure (.literal .null)

/-- A numeral takes at least the character with which it begins. -/
theorem Reader.numeral_progress {c : Char} (s : List Char) (h : c = '-' ∨ c = '.' ∨ c.isDigit) :
    (Reader.numeral.run (c :: s)).2.length ≤ s.length := by
  by_cases hm : c = '-'
  · subst hm
    apply Reader.run_bind_length_le
    simp [List.isPrefixOf]
  · have hm' : (['-'].isPrefixOf (c :: s)) = false := by simp [List.isPrefixOf, Ne.symm hm]
    unfold Reader.numeral
    rw [Reader.run_bind, Reader.run_eat, hm']
    by_cases hd : c.isDigit
    · apply Reader.run_bind_length_le
      simpa [hd] using (List.dropWhile_sublist Char.isDigit).length_le
    · have hp : c = '.' := by simpa [hm, hd] using h
      subst hp
      rw [Reader.run_bind]
      apply Reader.run_bind_length_le
      simp [List.isPrefixOf, hd]

/-- A word takes at least the character with which it begins. -/
theorem Reader.word_progress {c : Char} (s : List Char) (h : Text.isWordChar c) :
    (Reader.word.run (c :: s)).2.length ≤ s.length := by
  simpa [h] using (List.dropWhile_sublist Text.isWordChar).length_le

/-- An expression takes at least one character. -/
theorem Reader.primary_progress (inner : ExprReader) (c : Char) (s : List Char) :
    ((Reader.primary inner).run (c :: s)).2.length ≤ s.length := by
  unfold Reader.primary
  rw [Reader.run_bind, Reader.run_blanks]
  have hb := (List.dropWhile_sublist (l := c :: s) Text.isBlank).length_le
  cases h : (c :: s).dropWhile Text.isBlank with
  | nil => simp
  | cons d r =>
    rw [h, List.length_cons, List.length_cons] at hb
    refine Nat.le_trans ?_ (Nat.le_of_succ_le_succ hb)
    rw [Reader.run_bind, Reader.run_peek?]
    dsimp only [List.head?_cons]
    split
    · exact Reader.run_bind_length_le _ (Nat.le_refl _)
    · split
      · case isTrue hn => exact Reader.numeral_progress r hn
      · split
        · case isTrue hw => exact Reader.run_bind_length_le _ (Reader.word_progress r hw)
        · exact Reader.run_bind_length_le _ (Nat.le_refl _)

/-- Takes the place of an expression that is too deep, and drops the rest of its tag. -/
def Reader.cutOff : Reader Expr := do
  Reader.toClose
  pure (.literal (.string Fault.tooDeep.message))

/-- What cuts an expression off takes at least one character, unless the tag ends there. -/
theorem Reader.cutOff_progress (c : Char) (s : List Char) (h : c ≠ '}') :
    (Reader.cutOff.run (c :: s)).2.length ≤ s.length := by
  apply Reader.run_bind_length_le
  rw [Reader.run_toClose]
  unfold Delimiter.fromClose
  rw [if_neg (by simp [Delimiter.tagClose, List.isPrefixOf, h.symm])]
  exact Delimiter.fromClose_length_le s

mutual

/-- The reader of expressions with some levels left for them. -/
def expression : (levels : Nat) → ExprReader
  | 0 => ⟨Reader.cutOff, Reader.cutOff_progress⟩
  | levels + 1 =>
    ⟨.delay fun _ => do
      let e ← Reader.primary (expression levels)
      pipes levels e,
    fun c s _ => Reader.run_bind_length_le _ (Reader.primary_progress _ c s)⟩

/-- Takes the pipes behind an expression. Each one is a level of its own. -/
def pipes : (levels : Nat) → Expr → Reader Expr
  | 0, e => do
    Reader.blanks
    if ← Reader.eat ['|'] then Reader.cutOff else pure e
  | levels + 1, e => do
    Reader.blanks
    if ← Reader.eat ['|'] then
      Reader.blanks
      let name ← Reader.word
      let args ← (expression levels).optionalArguments
      pipes levels (.pipe e name args)
    else pure e

end

end Stencil

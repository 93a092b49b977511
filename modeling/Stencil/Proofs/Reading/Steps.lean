import Stencil.Proofs.Reading.Heads
import Stencil.Template.Block

/-!
# Steps of the readers

Equations for the readers that loop, one for each way in which a round can go. They say what is read
in terms of what comes next in the text, without the bookkeeping by which the loops are seen to end.

What is cut off for being too deep leaves the text at the end of its tag. There none of these
readers takes anything any more (`AtTagEnd`).
-/

namespace Stencil

/-- A reader reads the same whenever it is built. -/
lemma Reader.delay_eq {α : Type} (x : Unit → Reader α) : Reader.delay x = x () :=
  rfl

namespace ExprReader

variable {e : ExprReader} {s : List Char}

/-- Where only blanks are left, arguments end. -/
lemma argumentsFrom_nil (h : s.dropWhile Text.isBlank = []) : e.argumentsFrom s = ([], []) := by
  rw [argumentsFrom]
  split
  · rfl
  · case h_2 c r hr => simp [h] at hr

/-- What happens to arguments is decided by the first character that is no blank. -/
lemma argumentsFrom_cons {c : Char} {r : List Char} (h : s.dropWhile Text.isBlank = c :: r) :
    e.argumentsFrom s =
      if c = ')' then ([], r)
      else if c = ',' then e.argumentsFrom r
      else if c = '}' then ([], c :: r)
      else
        ((e.reader.run (c :: r)).1 :: (e.argumentsFrom (e.reader.run (c :: r)).2).1,
          (e.argumentsFrom (e.reader.run (c :: r)).2).2) := by
  rw [argumentsFrom]
  split
  · case h_1 hr => simp [h] at hr
  · case h_2 d t hr =>
    rw [h] at hr
    cases hr
    rfl

/-- Arguments do not depend on the blanks in front. -/
lemma argumentsFrom_congr {t : List Char}
    (h : s.dropWhile Text.isBlank = t.dropWhile Text.isBlank) :
    e.argumentsFrom s = e.argumentsFrom t := by
  cases ht : t.dropWhile Text.isBlank with
  | nil => rw [argumentsFrom_nil (h.trans ht), argumentsFrom_nil ht]
  | cons c r => rw [argumentsFrom_cons (h.trans ht), argumentsFrom_cons ht]

end ExprReader

section
variable {quote : Char} {r : List Char}

/-- A string ends at its quote. -/
lemma quotedText?_quote : quotedText? quote (quote :: r) = some ([], r) := by
  cases r with
  | nil => rw [quotedText?, if_pos rfl]
  | cons d r => rw [quotedText?, if_pos rfl]

/-- A backslash takes the next character with it. -/
lemma quotedText?_backslash (hq : quote ≠ '\\') (d : Char) :
    quotedText? quote ('\\' :: d :: r) =
      (quotedText? quote r).map fun p => (unescape quote d ++ p.1, p.2) := by
  rw [quotedText?, if_neg hq.symm, if_pos rfl]

/-- Any other character stands for itself. -/
lemma quotedText?_other {c : Char} (hc : ¬(c = '\\' ∨ c = quote)) (hr : r ≠ []) :
    quotedText? quote (c :: r) = (quotedText? quote r).map fun p => (c :: p.1, p.2) := by
  obtain ⟨hslash, hquote⟩ := not_or.mp hc
  cases r with
  | nil => exact absurd rfl hr
  | cons d r => rw [quotedText?, if_neg hquote, if_neg hslash]

end

section
variable {inner : ExprReader} {c : Char} {s : List Char}

/-- An expression does not depend on the blanks in front. -/
lemma run_primary_congr {t : List Char}
    (h : s.dropWhile Text.isBlank = t.dropWhile Text.isBlank) :
    (Reader.primary inner).run s = (Reader.primary inner).run t := by
  simp only [Reader.primary, Reader.run_bind, Reader.run_blanks, h]

/-- What an expression begins with decides how it is read. -/
lemma run_primary_cons (h : Text.isBlank c = false) :
    (Reader.primary inner).run (c :: s) =
      if c = '"' ∨ c = '\'' then
        (.literal (.string ((Reader.quotedText c).run s).1), ((Reader.quotedText c).run s).2)
      else if c = '-' ∨ c = '.' ∨ c.isDigit then Reader.numeral.run (c :: s)
      else if Text.isWordChar c then (Reader.named inner).run (c :: s)
      else (.literal .null, s) := by
  unfold Reader.primary
  rw [Reader.run_bind, Reader.run_blanks, List.dropWhile_cons_of_neg (by simp [h]),
    Reader.run_bind, Reader.run_peek?]
  dsimp only [List.head?_cons]
  split
  · rfl
  · split
    · rfl
    · split
      · rfl
      · rfl

/-- A quote begins a string. -/
lemma run_primary_quote (h : c = '"' ∨ c = '\'') :
    (Reader.primary inner).run (c :: s) =
      (.literal (.string ((Reader.quotedText c).run s).1), ((Reader.quotedText c).run s).2) := by
  have hblank : Text.isBlank c = false := by
    obtain rfl | rfl := h
    · decide
    · decide
  rw [run_primary_cons hblank, if_pos h]

/-- A digit, a point or a minus begins a numeral. -/
lemma run_primary_numeral (h : c = '-' ∨ c = '.' ∨ c.isDigit = true) :
    (Reader.primary inner).run (c :: s) = Reader.numeral.run (c :: s) := by
  have hblank : Text.isBlank c = false := by
    obtain rfl | rfl | hdigit := h
    · decide
    · decide
    · exact isBlank_of_isWordChar (isWordChar_of_isDigit hdigit)
  have hquote : ¬(c = '"' ∨ c = '\'') := by
    rintro (rfl | rfl)
    · exact absurd h (by decide)
    · exact absurd h (by decide)
  rw [run_primary_cons hblank, if_neg hquote, if_pos h]

/-- A character of words that is no digit begins a name. -/
lemma run_primary_name (h : Text.isWordChar c = true) (hdigit : c.isDigit = false) :
    (Reader.primary inner).run (c :: s) = (Reader.named inner).run (c :: s) := by
  have hquote : ¬(c = '"' ∨ c = '\'') := by
    rintro (rfl | rfl)
    · exact absurd h (by decide)
    · exact absurd h (by decide)
  have hnumeral : ¬(c = '-' ∨ c = '.' ∨ c.isDigit = true) := by
    rintro (rfl | rfl | hd)
    · exact absurd h (by decide)
    · exact absurd h (by decide)
    · rw [hdigit] at hd
      contradiction
  rw [run_primary_cons (isBlank_of_isWordChar h), if_neg hquote, if_neg hnumeral, if_pos h]

end

/-- With a level left, an expression is read without its pipes, and then they are. -/
lemma run_expression_succ (levels : Nat) (s : List Char) :
    (expression (levels + 1)).reader.run s =
      (Reader.primary (expression levels) >>= pipes levels).run s :=
  rfl

/-- Where no bar comes next there are no pipes, whatever the levels; only blanks are taken. -/
lemma pipes_of_no_bar {levels : Nat} {e : Expr} {s : List Char}
    (h : ['|'].isPrefixOf (s.dropWhile Text.isBlank) = false) :
    (pipes levels e).run s = (e, s.dropWhile Text.isBlank) := by
  cases levels with
  | zero => simp [pipes, h]
  | succ levels => simp [pipes, h]

/-- A bar with a name behind it is a pipe, which takes one level. -/
lemma run_pipes_bar {left : Nat} {input : Expr} {name : String} {args : List Expr}
    {s t u r : List Char} (hname : Text.isName name = true)
    (hs : s.dropWhile Text.isBlank = '|' :: t) (ht : t.dropWhile Text.isBlank = name.toList ++ u)
    (hu : HeadNot Text.isWordChar u)
    (hargs : (expression left).optionalArguments.run u = (args, r)) :
    (pipes (left + 1) input).run s = (pipes left (.pipe input name args)).run r := by
  rw [pipes, Reader.run_bind, Reader.run_blanks, hs, Reader.run_bind, run_eat_cons]
  dsimp only
  rw [if_pos rfl, Reader.run_bind, Reader.run_blanks, ht, Reader.run_bind, run_word_name hname hu,
    Reader.run_bind, hargs]

/-- Where no parenthesis opens there are no arguments. -/
lemma ExprReader.optionalArguments_none (e : ExprReader) {s : List Char}
    (h : HeadNot (· == '(') s) : e.optionalArguments.run s = ([], s) := by
  rw [optionalArguments, Reader.run_bind, h.run_eat]
  rfl

/-- The text is at the end of a tag: nothing is left, or a closing mark comes next. -/
def AtTagEnd (s : List Char) : Prop :=
  s = [] ∨ ∃ r, s = '}' :: '}' :: r

/-- The text from the first closing mark on is at the end of its tag. -/
lemma atTagEnd_fromClose (s : List Char) : AtTagEnd (Delimiter.fromClose s) := by
  induction s with
  | nil => exact .inl rfl
  | cons c s ih =>
    rw [Delimiter.fromClose]
    split
    · case isTrue h =>
      obtain ⟨r, hr⟩ := List.isPrefixOf_iff_prefix.mp h
      exact .inr ⟨r, hr.symm⟩
    · exact ih

section
variable {s : List Char} (h : AtTagEnd s)
include h

/-- There are no blanks at the end of a tag. -/
lemma AtTagEnd.dropWhile_isBlank : s.dropWhile Text.isBlank = s := by
  obtain rfl | ⟨r, rfl⟩ := h
  · rfl
  · rfl

/-- There is no keyword at the end of a tag. -/
lemma AtTagEnd.keyword_as : (Reader.keyword ['a', 's']).run s = (false, s) := by
  obtain rfl | ⟨r, rfl⟩ := h
  · rfl
  · rfl

/-- There are no arguments at the end of a tag. -/
lemma AtTagEnd.argumentsFrom (e : ExprReader) : e.argumentsFrom s = ([], s) := by
  obtain rfl | ⟨r, rfl⟩ := h
  · exact ExprReader.argumentsFrom_nil rfl
  · rw [ExprReader.argumentsFrom_cons rfl]
    rfl

/-- There are no pipes at the end of a tag. -/
lemma AtTagEnd.pipes (levels : Nat) (e : Expr) : (pipes levels e).run s = (e, s) := by
  have hbar : ['|'].isPrefixOf (s.dropWhile Text.isBlank) = false := by
    rw [h.dropWhile_isBlank]
    obtain rfl | ⟨r, rfl⟩ := h
    · rfl
    · rfl
  rw [pipes_of_no_bar hbar, h.dropWhile_isBlank]

end

/-- A character that begins no mark is text. -/
lemma literalText_cons {c : Char} {s : List Char} (hopen : c = '{' → s.head? ≠ some '{')
    (hescaped : c = '\\' → Delimiter.tagOpen.isPrefixOf s = false) :
    literalText (c :: s) = (c :: (literalText s).1, (literalText s).2) := by
  rw [literalText]
  · rintro r rfl rfl
    exact hopen rfl rfl
  · rintro r rfl rfl
    simpa [Delimiter.tagOpen] using hescaped rfl

section
variable {tag : Reader Node} {stops : List (List Char)} {s : List Char}

/-- Nodes end with a text if a stop or nothing comes after it. -/
lemma nodesFrom_end (h : (literalText s).2 = [] ∨ beginsWithAny stops (literalText s).2 = true) :
    nodesFrom tag stops s = (textNodes (literalText s).1, (literalText s).2) := by
  rw [nodesFrom]
  exact dif_pos h

/-- Nodes go on with a tag after a text if no stop comes there. -/
lemma nodesFrom_tag {n : Node} {r : List Char}
    (h : ¬((literalText s).2 = [] ∨ beginsWithAny stops (literalText s).2 = true))
    (htag : tag.run ((literalText s).2.drop Delimiter.tagOpen.length) = (n, r)) :
    nodesFrom tag stops s =
      (textNodes (literalText s).1 ++ n :: (nodesFrom tag stops r).1,
        (nodesFrom tag stops r).2) := by
  rw [nodesFrom]
  dsimp only
  rw [dif_neg h, htag]

end

section
variable {depth : Nat} {nodes : Region → Reader (List Node)} {condition : Expr}
  {s r t u : List Char} {body ns : List Node} {c : Expr}

/-- The end of a conditional, or of the text, makes a branch the last one. -/
lemma branchesFrom_last (hbody : (nodes .ifBody).run s = (body, r))
    (hend : ((Reader.eat Delimiter.endIf).run r).1 = true ∨ r = []) :
    branchesFrom depth nodes condition s =
      (([(condition, body)], none), ((Reader.eat Delimiter.endIf).run r).2) := by
  rw [branchesFrom]
  dsimp only
  rw [hbody, dif_pos hend]

/-- Another condition begins another branch. -/
lemma branchesFrom_more (hbody : (nodes .ifBody).run s = (body, r))
    (hend : ¬(((Reader.eat Delimiter.endIf).run r).1 = true ∨ r = []))
    (helse : (Reader.elseTag depth).run r = (some c, t)) :
    branchesFrom depth nodes condition s =
      (((condition, body) :: (branchesFrom depth nodes c t).1.1,
        (branchesFrom depth nodes c t).1.2), (branchesFrom depth nodes c t).2) := by
  rw [branchesFrom]
  dsimp only
  rw [hbody, dif_neg hend, helse]

/-- A tag without a condition begins the fallback. -/
lemma branchesFrom_fallback (hbody : (nodes .ifBody).run s = (body, r))
    (hend : ¬(((Reader.eat Delimiter.endIf).run r).1 = true ∨ r = []))
    (helse : (Reader.elseTag depth).run r = (none, t))
    (hns : (nodes .ifFallback).run t = (ns, u)) :
    branchesFrom depth nodes condition s =
      (([(condition, body)], some ns), ((Reader.eat Delimiter.endIf).run u).2) := by
  rw [branchesFrom]
  dsimp only
  rw [hbody, dif_neg hend, helse]
  dsimp only
  rw [hns]

end

end Stencil

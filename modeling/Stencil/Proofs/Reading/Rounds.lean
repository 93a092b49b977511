import Stencil.Proofs.Reading.Onward

/-!
# Rounds of the loops

The loops by which arguments, pipes, the branches of a conditional and the nodes of a region are
read, round by round. Each of them ends with what its reader makes of the text, as soon as the
readers that it calls go onward.
-/

namespace Stencil

open Reader

/-- A round of arguments takes one of them, a comma or the closing parenthesis. -/
def argumentLoop (e : ExprReader) : Loop (List Expr) (List Expr) := fun args => do
  blanks
  match ← peek? with
  | none => pure (.done args)
  | some c =>
    if c = ')' then
      skip 1
      pure (.done args)
    else if c = ',' then
      skip 1
      pure (.again args)
    else if c = '}' then pure (.done args)
    else
      let x ← e.reader
      pure (.again (args ++ [x]))

/-- The loop of arguments ends with the arguments that are read. -/
theorem argumentLoop_ends {e : ExprReader} (he : e.reader.Onward) :
    (argumentLoop e).Ends fun args s => (args ++ (e.argumentsFrom s).1, (e.argumentsFrom s).2) := by
  refine Loop.ends_of_rounds (fun args => ?_) fun args s => ?_
  · refine onward_blanks.bind fun _ => onward_peek?.bind fun next => ?_
    cases next with
    | none => exact .pure _
    | some c =>
      refine .ite ((onward_skip 1).bind fun _ => .pure _) ?_
      refine .ite ((onward_skip 1).bind fun _ => .pure _) ?_
      exact .ite (.pure _) (he.bind fun _ => .pure _)
  · have hs := (List.dropWhile_sublist (l := s) Text.isBlank).length_le
    rw [argumentLoop, run_bind, run_blanks, run_bind, run_peek?]
    cases hr : s.dropWhile Text.isBlank with
    | nil =>
      rw [ExprReader.argumentsFrom_nil hr]
      change (args, []) = (args ++ [], [])
      rw [List.append_nil]
    | cons c r =>
      rw [hr, List.length_cons] at hs
      rw [ExprReader.argumentsFrom_cons hr]
      dsimp only [List.head?_cons]
      by_cases hclose : c = ')'
      · rw [if_pos hclose, if_pos hclose]
        change (args, r) = (args ++ [], r)
        rw [List.append_nil]
      rw [if_neg hclose, if_neg hclose]
      by_cases hcomma : c = ','
      · rw [if_pos hcomma, if_pos hcomma]
        exact ⟨hs, rfl⟩
      rw [if_neg hcomma, if_neg hcomma]
      by_cases hend : c = '}'
      · rw [if_pos hend, if_pos hend]
        change (args, c :: r) = (args ++ [], c :: r)
        rw [List.append_nil]
      rw [if_neg hend, if_neg hend]
      refine ⟨Nat.lt_of_le_of_lt (e.progress c r hend) hs, ?_⟩
      exact Prod.ext (List.append_assoc args [_] _) rfl

/-- Takes one pipe after its bar. -/
def Reader.pipe (inner : ExprReader) (input : Expr) : Reader Expr := do
  blanks
  let name ← word
  let args ← inner.optionalArguments
  pure (.pipe input name args)

/-- A round of pipes takes one of them, from the levels that are left and the expression in
front. -/
def pipeLoop : Loop (Nat × Expr) Expr := fun a => do
  blanks
  if ← eat ['|'] then
    match a.1 with
    | 0 => Round.done <$> cutOff
    | levels + 1 => (fun e => Round.again (levels, e)) <$> Reader.pipe (expression levels) a.2
  else pure (.done a.2)

/-- What cuts an expression off goes onward. -/
lemma onward_cutOff : cutOff.Onward :=
  onward_toClose.bind fun _ => .pure _

/-- Arguments in parentheses go onward if arguments do, also if there are none. -/
lemma onward_optionalArguments {e : ExprReader} (he : e.reader.Onward) :
    e.optionalArguments.Onward := by
  refine (onward_eat _).bind fun opened => ?_
  cases opened with
  | true => exact (argumentLoop_ends he).suffix []
  | false => exact .pure []

/-- A pipe goes onward if arguments do. -/
lemma onward_pipe {inner : ExprReader} (he : inner.reader.Onward) (input : Expr) :
    (Reader.pipe inner input).Onward :=
  onward_blanks.bind fun _ => onward_word.bind fun _ =>
    (onward_optionalArguments he).bind fun _ => .pure _

/-- The loop of pipes ends with the pipes that are read. -/
theorem pipeLoop_ends (he : ∀ levels, (expression levels).reader.Onward) :
    pipeLoop.Ends fun a s => (pipes a.1 a.2).run s := by
  refine Loop.ends_of_rounds (fun a => ?_) fun a s => ?_
  · refine onward_blanks.bind fun _ => (onward_eat _).bind fun bar => ?_
    cases bar with
    | false => exact .pure _
    | true =>
      obtain ⟨levels, e⟩ := a
      cases levels with
      | zero => exact onward_cutOff.map _
      | succ levels => exact (onward_pipe (he levels) e).map _
  · obtain ⟨levels, e⟩ := a
    rw [pipeLoop, run_bind, run_blanks, run_bind, run_eat]
    by_cases hbar : ['|'].isPrefixOf (s.dropWhile Text.isBlank) = true
    · have hlt : ((s.dropWhile Text.isBlank).drop 1).length < s.length := by
        have hs := (List.dropWhile_sublist (l := s) Text.isBlank).length_le
        have hpos := (List.isPrefixOf_iff_prefix.mp hbar).length_le
        rw [List.length_singleton] at hpos
        rw [List.length_drop]
        omega
      rw [if_pos hbar]
      cases levels with
      | zero =>
        rw [pipes, run_bind, run_blanks, run_bind, run_eat, if_pos hbar]
        rfl
      | succ levels =>
        rw [pipes, run_bind, run_blanks, run_bind, run_eat, if_pos hbar]
        exact ⟨Nat.lt_of_le_of_lt ((Reader.pipe (expression levels) e).length_le _) hlt, rfl⟩
    · rw [Bool.not_eq_true] at hbar
      rw [pipes_of_no_bar hbar, hbar]
      rfl

/-- A round of a conditional takes the body of a branch, whose condition has been read, and the tag
behind it. -/
def branchLoop (depth : Nat) (nodes : Region → Reader (List Node)) :
    Loop (List (Expr × List Node) × Expr) (List (Expr × List Node) × Option (List Node)) :=
  fun (branches, condition) => do
    let body ← nodes .ifBody
    let closed ← eat Delimiter.endIf
    let ended ← atEnd
    if closed || ended then pure (.done (branches ++ [(condition, body)], none))
    else
      match ← elseTag depth with
      | some next => pure (.again (branches ++ [(condition, body)], next))
      | none =>
        let fallback ← nodes .ifFallback
        discard (eat Delimiter.endIf)
        pure (.done (branches ++ [(condition, body)], some fallback))

/-- A conditional ends behind a body where its closing tag comes next, or nothing. -/
lemma endsIf_iff (s : List Char) :
    (((eat Delimiter.endIf).run s).1 || ((eat Delimiter.endIf).run s).2.isEmpty) = true ↔
      ((eat Delimiter.endIf).run s).1 = true ∨ s = [] := by
  by_cases hclosed : ((eat Delimiter.endIf).run s).1 = true
  · rw [hclosed, Bool.true_or]
    exact iff_of_true rfl (.inl rfl)
  · rw [run_eat_of_not hclosed, Bool.false_or, List.isEmpty_iff]
    exact (or_iff_right Bool.false_ne_true).symm

/-- What an else tag leaves is shorter than what begins with the body in front of it. -/
lemma length_elseTag_lt (depth : Nat) {x : Reader (List Node)} {s r : List Char}
    {body : List Node} (hbody : x.run s = (body, r)) (h : r ≠ []) :
    ((elseTag depth).run r).2.length < s.length := by
  have hle := x.length_le s
  rw [hbody] at hle
  exact Nat.lt_of_lt_of_le (elseTag_length_lt depth h) hle

/-- The loop of branches ends with the branches that are read, and the fallback. -/
theorem branchLoop_ends {depth : Nat} {nodes : Region → Reader (List Node)}
    (helse : (elseTag depth).Onward) (hnodes : ∀ r, (nodes r).Onward) :
    (branchLoop depth nodes).Ends fun a s =>
      let p := branchesFrom depth nodes a.2 s
      ((a.1 ++ p.1.1, p.1.2), p.2) := by
  refine Loop.ends_of_rounds (fun a => ?_) fun a s => ?_
  · refine (hnodes _).bind fun body => (onward_eat _).bind fun closed => ?_
    refine onward_atEnd.bind fun ended => .ite (.pure _) (helse.bind fun next => ?_)
    cases next with
    | some c => exact .pure _
    | none => exact (hnodes _).bind fun fallback => (onward_eat _).bind fun _ => .pure _
  · obtain ⟨branches, condition⟩ := a
    dsimp only
    rw [branchLoop, run_bind]
    cases hbody : (nodes .ifBody).run s with
    | mk body r =>
    rw [run_bind, run_bind, run_atEnd]
    by_cases hend : ((eat Delimiter.endIf).run r).1 = true ∨ r = []
    · rw [branchesFrom_last hbody hend, if_pos ((endsIf_iff r).mpr hend)]
      rfl
    · obtain ⟨hopen, hne⟩ := not_or.mp hend
      have hlt := length_elseTag_lt depth hbody hne
      rw [if_neg ((not_congr (endsIf_iff r)).mpr hend), run_eat_of_not hopen, run_bind]
      cases hnext : (elseTag depth).run r with
      | mk next t =>
      rw [hnext] at hlt
      cases next with
      | some c =>
        rw [branchesFrom_more hbody hend hnext]
        exact ⟨hlt, Prod.ext (Prod.ext (List.append_assoc branches [_] _) rfl) rfl⟩
      | none =>
        rw [branchesFrom_fallback hbody hend hnext rfl]
        rfl

/-- What comes after a text is the end of the whole. -/
lemma literalText_suffix (s : List Char) : (literalText s).2 <:+ s := by
  fun_induction literalText s with
  | case1 => exact List.suffix_refl []
  | case2 s => exact List.suffix_refl _
  | case3 s r ih => exact ih.trans (List.suffix_append ['\\', '{', '{'] s)
  | case4 c s _ _ r ih => exact ih.trans (List.suffix_cons c s)

/-- Takes the text before the next opening mark. -/
def Reader.literal : Reader (List Char) :=
  ⟨literalText, literalText_length_le⟩

/-- Whether the text goes on with one of some stops. -/
def Reader.isAtAny (stops : List (List Char)) : Reader Bool :=
  ⟨fun s => (beginsWithAny stops s, s), fun _ => Nat.le_refl _⟩

/-- The text in front of a tag, as a reader. -/
lemma Reader.run_literal (s : List Char) : Reader.literal.run s = literalText s :=
  rfl

/-- A look for stops takes nothing. -/
lemma Reader.run_isAtAny (stops : List (List Char)) (s : List Char) :
    (Reader.isAtAny stops).run s = (beginsWithAny stops s, s) :=
  rfl

/-- A region ends behind a text where nothing or a stop comes next. -/
lemma ends_iff (stops : List (List Char)) (s : List Char) :
    (s.isEmpty || beginsWithAny stops s) = true ↔ s = [] ∨ beginsWithAny stops s = true := by
  rw [Bool.or_eq_true, List.isEmpty_iff]

/-- A tag behind a text is shorter than what it stands in. -/
lemma length_tag_lt (tag : Reader Node) {s : List Char} (h : (literalText s).2 ≠ []) :
    (tag.run ((literalText s).2.drop Delimiter.tagOpen.length)).2.length < s.length := by
  have hle := literalText_length_le s
  have hpos := List.length_pos_iff.mpr h
  have hlt : ((literalText s).2.drop Delimiter.tagOpen.length).length < s.length := by
    rw [List.length_drop]
    change _ - 2 < _
    omega
  exact Nat.lt_of_le_of_lt (tag.length_le _) hlt

/-- A round of a region takes the text before the next opening mark, and the tag there unless the
region ends. -/
def nodeLoop (tag : Reader Node) (stops : List (List Char)) : Loop (List Node) (List Node) :=
  fun nodes => do
    let t ← Reader.literal
    let ended ← atEnd
    let stopped ← Reader.isAtAny stops
    if ended || stopped then pure (.done (nodes ++ textNodes t))
    else
      skip Delimiter.tagOpen.length
      let n ← tag
      pure (.again (nodes ++ textNodes t ++ [n]))

/-- The loop of nodes ends with the nodes that are read. -/
theorem nodeLoop_ends {tag : Reader Node} (htag : tag.Onward) (stops : List (List Char)) :
    (nodeLoop tag stops).Ends fun nodes s =>
      (nodes ++ (nodesFrom tag stops s).1, (nodesFrom tag stops s).2) := by
  refine Loop.ends_of_rounds (fun nodes => ?_) fun nodes s => ?_
  · refine Onward.bind literalText_suffix fun t => onward_atEnd.bind fun ended => ?_
    refine Onward.bind (fun s => List.suffix_refl s) fun stopped => .ite (.pure _) ?_
    exact (onward_skip _).bind fun _ => htag.bind fun n => .pure _
  · rw [nodeLoop, run_bind, run_literal, run_bind, run_atEnd, run_bind, run_isAtAny]
    by_cases hend : (literalText s).2 = [] ∨ beginsWithAny stops (literalText s).2 = true
    · rw [nodesFrom_end hend, if_pos ((ends_iff stops _).mpr hend)]
      rfl
    · rw [nodesFrom_tag hend rfl, if_neg ((not_congr (ends_iff stops _)).mpr hend)]
      refine ⟨length_tag_lt tag (not_or.mp hend).1, Prod.ext ?_ rfl⟩
      exact (List.append_assoc (nodes ++ textNodes _) [_] _).trans (List.append_assoc nodes _ _)

end Stencil

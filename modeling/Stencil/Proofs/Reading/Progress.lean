import Stencil.Proofs.Limits.Widening
import Stencil.Proofs.Reading.Rounds

/-!
# Reading ends

Reading recurses along two budgets, the levels of expressions and those of blocks, so that only its
loops could run on. Along the budgets every reader goes onward (`onward_expression`,
`onward_block`), and so each loop ends. A region hands the text on at a place that its block relies
on: at the end, or where one of its stops comes next (`nodes_stop`).

Main statement: for all limits reading proceeds in this way, and the outermost region takes all of
the template (`Template.reading_ends`).
-/

namespace Stencil

open Reader

/-- What begins with a word goes onward if arguments do. -/
lemma onward_named {inner : ExprReader} (h : inner.reader.Onward) : (named inner).Onward := by
  refine onward_word.bind fun name => ?_
  -- constants
  refine .ite (.pure _) ?_
  refine .ite (.pure _) ?_
  refine .ite (.pure _) ?_
  -- the parenthesis of a call, or a path
  refine (onward_eat _).bind fun opened => ?_
  cases opened with
  | true => exact Onward.bind ((argumentLoop_ends h).suffix []) fun args => .pure _
  | false => exact onward_segments.bind fun more => .pure _

/-- An expression without its pipes goes onward if arguments do. -/
lemma onward_primary {inner : ExprReader} (h : inner.reader.Onward) : (primary inner).Onward := by
  refine onward_blanks.bind fun _ => onward_peek?.bind fun next => ?_
  cases next with
  | none => exact .pure _
  | some c =>
    -- strings, numerals, names, and anything else
    refine .ite ((onward_skip 1).bind fun _ => (onward_quotedText c).bind fun _ => .pure _) ?_
    refine .ite onward_numeral ?_
    refine .ite (onward_named h) ?_
    exact (onward_skip 1).bind fun _ => .pure _

/-- Expressions and pipes, by one induction on the levels that are left. -/
lemma onward_expression_pipes (levels : Nat) :
    (expression levels).reader.Onward ∧ ∀ e, (pipes levels e).Onward := by
  induction levels with
  | zero =>
    refine ⟨onward_cutOff, fun e => onward_blanks.bind fun _ => (onward_eat _).bind fun bar => ?_⟩
    exact .ite onward_cutOff (.pure _)
  | succ levels ih =>
    obtain ⟨hexpr, hpipes⟩ := ih
    refine ⟨(onward_primary hexpr).bind hpipes, fun e => ?_⟩
    rw [pipes]
    refine onward_blanks.bind fun _ => (onward_eat _).bind fun bar => .ite ?_ (.pure _)
    exact (onward_pipe hexpr e).bind hpipes

/-- Expressions go onward. -/
theorem onward_expression (levels : Nat) : (expression levels).reader.Onward :=
  (onward_expression_pipes levels).1

/-- An expression takes a character unless a `}` comes first. -/
lemma expression_suffix (levels : Nat) {c : Char} (s : List Char) (h : c ≠ '}') :
    ((expression levels).reader.run (c :: s)).2 <:+ s := by
  obtain heq | hsuffix := List.suffix_cons_iff.mp (onward_expression levels (c :: s))
  · have hle := (expression levels).progress c s h
    rw [heq] at hle
    exact absurd hle (Nat.not_succ_le_self _)
  · exact hsuffix

/-- The expression of a tag goes onward, up to the end of the tag. -/
lemma onward_head (depth : Nat) : (head depth).Onward := by
  refine onward_blanks.bind fun _ => onward_atEnd.bind fun empty => ?_
  refine (onward_isAt _).bind fun closed => (onward_isAt _).bind fun rawClosed => ?_
  exact .ite (.pure _) (onward_expression depth)

/-- The mark of a further branch goes onward. -/
lemma onward_elseIf : elseIf.Onward := by
  refine (onward_eat _).bind fun joined => .ite (.pure _) ?_
  exact onward_peek?.bind fun next => .ite (onward_blanks.bind fun _ => onward_keyword _) (.pure _)

/-- A tag between branches goes onward. -/
lemma onward_elseTag (depth : Nat) : (elseTag depth).Onward := by
  refine (onward_skip _).bind fun _ => onward_elseIf.bind fun condition => .ite ?_ ?_
  · exact (onward_head depth).bind fun _ => onward_pastClose.bind fun _ => .pure _
  · exact onward_pastClose.bind fun _ => .pure _

/-- The name of an index goes onward. -/
lemma onward_loopIndex : loopIndex.Onward :=
  (onward_eat _).bind fun _ => .ite (onward_blanks.bind fun _ => onward_word.map some) (.pure _)

section
variable (depth : Nat) {nodes : Region → Reader (List Node)} (h : ∀ r, (nodes r).Onward)
include h

/-- A conditional goes onward if nodes do. -/
lemma onward_conditional : (conditional depth nodes).Onward := by
  refine (onward_head depth).bind fun condition => onward_pastClose.bind fun _ => ?_
  refine Onward.bind (fun s => ?_) fun parts => .pure _
  exact (branchLoop_ends (onward_elseTag depth) h).suffix ([], condition) s

omit depth in
/-- The fallback of a loop goes onward if nodes do. -/
lemma onward_loopFallback : (loopFallback nodes).Onward :=
  (onward_isAt _).bind fun _ => .ite (onward_pastClose.bind fun _ => (h _).map some) (.pure _)

/-- A loop goes onward if nodes do. -/
lemma onward_loop : (loop depth nodes).Onward := by
  refine (onward_head depth).bind fun source => onward_blanks.bind fun _ => ?_
  refine (onward_keyword _).bind fun named => .ite ?_ (onward_pastClose.bind fun _ => .pure _)
  refine onward_blanks.bind fun _ => onward_word.bind fun item => onward_blanks.bind fun _ => ?_
  refine onward_loopIndex.bind fun index => onward_pastClose.bind fun _ => ?_
  refine (h _).bind fun body => (onward_loopFallback h).bind fun fallback => ?_
  exact (onward_eat _).bind fun _ => .pure _

end

/-- A tag goes onward if a block does. -/
lemma onward_tag (depth : Nat) {block : Reader Node} (h : block.Onward) :
    (tag depth block).Onward := by
  refine (onward_eat _).bind fun hash => .ite h ?_
  refine (onward_eat _).bind fun plus => .ite ?_ ?_
  · refine (onward_head depth).bind fun e => onward_blanks.bind fun _ => ?_
    exact (onward_eat _).bind fun _ => onward_pastClose.bind fun _ => .pure _
  · exact (onward_head depth).bind fun e => onward_pastClose.bind fun _ => .pure _

/-- Nodes go onward if a tag does. -/
lemma onward_nodes {tag : Reader Node} (h : tag.Onward) (region : Region) :
    (nodes tag region).Onward :=
  (nodeLoop_ends h region.stops).suffix []

/-- Blocks go onward, by induction on the levels that are left for those inside. -/
theorem onward_block (depth levels : Nat) : (block depth levels).Onward := by
  induction levels with
  | zero => exact onward_word.bind fun keyword => .ite (.pure _) (.pure _)
  | succ levels ih =>
    have hnodes := onward_nodes (onward_tag depth ih)
    rw [block, Reader.delay_eq]
    refine onward_word.bind fun keyword => ?_
    refine .ite (onward_conditional depth hnodes) ?_
    exact .ite (onward_loop depth hnodes) (.pure _)

open Delimiter

/-- A text ends before an opening mark, or with the whole. -/
lemma literalText_opens (s : List Char) :
    (literalText s).2 = [] ∨ tagOpen <+: (literalText s).2 := by
  fun_induction literalText s with
  | case1 => exact .inl rfl
  | case2 s => exact .inr (List.prefix_append tagOpen s)
  | case3 s r ih => exact ih
  | case4 c s _ _ r ih => exact ih

/-- A region ends before one of its stops, or with the whole. -/
lemma nodes_stop (tag : Reader Node) (region : Region) (s : List Char) :
    ((nodes tag region).run s).2 = [] ∨
      ∃ stop ∈ region.stops, stop <+: ((nodes tag region).run s).2 := by
  change (nodesFrom tag region.stops s).2 = [] ∨
    ∃ stop ∈ region.stops, stop <+: (nodesFrom tag region.stops s).2
  fun_induction nodesFrom tag region.stops s with
  | case1 s t hend =>
    refine hend.imp_right fun hstop => ?_
    obtain ⟨stop, hmem, hprefix⟩ := List.any_eq_true.mp hstop
    exact ⟨stop, hmem, List.isPrefixOf_iff_prefix.mp hprefix⟩
  | case2 s t hend hlt n more ih => exact ih

/-- Nothing is left of a template. -/
lemma nodes_outermost (tag : Reader Node) (s : List Char) :
    ((nodes tag .outermost).run s).2 = [] := by
  obtain hnil | ⟨stop, hmem, _⟩ := nodes_stop tag .outermost s
  · exact hnil
  · exact absurd hmem List.not_mem_nil

/-- Where a branch ends neither its conditional nor the text, the else mark comes next. -/
lemma nodes_ifBody {tag : Reader Node} {s : List Char} (hne : ((nodes tag .ifBody).run s).2 ≠ [])
    (hend : ¬endIf <+: ((nodes tag .ifBody).run s).2) :
    elseMark <+: ((nodes tag .ifBody).run s).2 := by
  obtain hnil | ⟨stop, hmem, hprefix⟩ := nodes_stop tag .ifBody s
  · exact absurd hnil hne
  · obtain rfl | hmem := List.mem_cons.mp hmem
    · exact hprefix
    · obtain rfl := List.mem_singleton.mp hmem
      exact absurd hprefix hend

/-- How the parts of a template are read, if `tag` reads a tag after its opening mark. -/
structure Proceeds (depth : Nat) (tag : Reader Node) : Prop where
  /-- The loops end, with what their readers make of the text. -/
  argumentLoop_ends : ∀ k, (argumentLoop (expression k)).Ends fun args s =>
    (args ++ ((expression k).argumentsFrom s).1, ((expression k).argumentsFrom s).2)
  pipeLoop_ends : pipeLoop.Ends fun a => (pipes a.1 a.2).run
  branchLoop_ends : (branchLoop depth (nodes tag)).Ends fun a s =>
    let p := branchesFrom depth (nodes tag) a.2 s
    ((a.1 ++ p.1.1, p.1.2), p.2)
  nodeLoop_ends : ∀ stops, (nodeLoop tag stops).Ends fun ns s =>
    (ns ++ (nodesFrom tag stops s).1, (nodesFrom tag stops s).2)
  /-- An expression takes a front part of the text, with a character in it unless a `}` comes
  first. -/
  onward_expression : ∀ k, (expression k).reader.Onward
  expression_suffix : ∀ k c s, c ≠ '}' → ((expression k).reader.run (c :: s)).2 <:+ s
  /-- A tag begins where its opening mark stands, takes that, and ends at a closing mark. -/
  tag_opens : ∀ s, (literalText s).2 = [] ∨ tagOpen <+: (literalText s).2
  tag_takes : ∀ s, ∃ taken, tagOpen ++ s = taken ++ (tag.run s).2 ∧ 2 ≤ taken.length
  tag_closes : ∀ s, AtTagEnd (fromClose s)
  /-- A region takes a front part of the text and ends before one of its stops or with the text. -/
  onward_nodes : ∀ region, (nodes tag region).Onward
  nodes_stop : ∀ region s, ((nodes tag region).run s).2 = [] ∨
    ∃ stop ∈ region.stops, stop <+: ((nodes tag region).run s).2
  /-- So there is an else mark where an else tag is read, and nothing behind the outermost
  region. -/
  nodes_ifBody : ∀ s, ((nodes tag .ifBody).run s).2 ≠ [] →
    ¬endIf <+: ((nodes tag .ifBody).run s).2 → elseMark <+: ((nodes tag .ifBody).run s).2
  nodes_outermost : ∀ s, ((nodes tag .outermost).run s).2 = []

/-- It is enough that tags are read onward. -/
theorem proceeds_of_onward (depth : Nat) {tag : Reader Node} (h : tag.Onward) :
    Proceeds depth tag where
  argumentLoop_ends k := Stencil.argumentLoop_ends (onward_expression k)
  pipeLoop_ends := Stencil.pipeLoop_ends onward_expression
  branchLoop_ends := Stencil.branchLoop_ends (onward_elseTag depth) (onward_nodes h)
  nodeLoop_ends := Stencil.nodeLoop_ends h
  onward_expression := onward_expression
  expression_suffix k _ s := expression_suffix k s
  tag_opens := literalText_opens
  tag_takes s := by
    obtain ⟨taken, htaken⟩ := h s
    refine ⟨tagOpen ++ taken, ?_, ?_⟩
    · rw [List.append_assoc, htaken]
    · rw [List.length_append]
      exact Nat.le_add_right 2 _
  tag_closes := atTagEnd_fromClose
  onward_nodes := onward_nodes h
  nodes_stop := nodes_stop tag
  nodes_ifBody _ := nodes_ifBody
  nodes_outermost := nodes_outermost tag

namespace Template

/-- Reading ends and leaves nothing, for all limits and all levels that are left for blocks: a
template that is not too long is read by the loop over its nodes, in no more rounds than it has
characters and one. -/
theorem reading_ends (limits : Limits) (levels : Nat) :
    Proceeds limits.depth (tag limits.depth (block limits.depth levels)) ∧
      ∀ s : String, (limits.length.any fun n => n < s.utf8ByteSize) = false →
        (nodeLoop (tag limits.depth (block limits.depth limits.depth))
          Region.outermost.stops).within (s.toList.length + 1) [] s.toList =
            some ((parse limits s).nodes, []) := by
  have htag (k : Nat) := onward_tag limits.depth (onward_block limits.depth k)
  refine ⟨proceeds_of_onward limits.depth (htag levels), fun s hs => ?_⟩
  have hparse : (parse limits s).nodes =
      ((Reader.nodes (tag limits.depth (block limits.depth limits.depth)) .outermost).run
        s.toList).1 := by
    rw [parse, hs]
    rfl
  have hend := (nodeLoop_ends (htag limits.depth) Region.outermost.stops).within_eq []
    s.toList _ (Nat.lt_succ_self _)
  rw [hend, hparse]
  exact congrArg some (Prod.ext rfl (nodes_outermost _ _))

/-- A block, its tag, a call and a string that are never closed. -/
def unclosed : String := "\x7b\x7b#if f(\"a"

/-- Of a string that is never closed only the quote is taken, and a block that is never closed is
read to the end of the text. -/
theorem reading_ends_of_unclosed :
    ('"' ≠ '}' ∧ ((expression 1).reader.run ['"', 'a']).2 <:+ ['a']) ∧
      ((none : Option Nat).any fun n => n < unclosed.utf8ByteSize) = false ∧
        (nodeLoop (tag 2 (block 2 2)) Region.outermost.stops).within
            (unclosed.toList.length + 1) [] unclosed.toList =
          some ((parse ⟨2, none⟩ unclosed).nodes, []) := by
  obtain ⟨hproceeds, hparse⟩ := reading_ends ⟨2, none⟩ 2
  have hexpression := hproceeds.expression_suffix 1 '"' ['a'] (by decide)
  exact ⟨⟨by decide, hexpression⟩, rfl, hparse unclosed rfl⟩

end Template

end Stencil

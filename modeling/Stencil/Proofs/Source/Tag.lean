import Stencil.Proofs.Source.Expression

/-!
# Reading tags back

A tag as it is written is read back, and so is a whole block, once the nodes inside it are: the tag
at its front and each of its branches stop where the next one begins. What is to be read back is
stated for levels that are at least as many as the source has characters; every block and every part
of an expression takes some of them.
-/

namespace Stencil

open Delimiter Reader

/-- The nodes of a region are read from `x` as `ns` if a stop of the region comes behind. -/
def BodyReadsAs (x : List Char) (ns : List Node) : Prop :=
  ∀ depth levels, x.length ≤ depth → x.length ≤ levels → ∀ region r,
    beginsWithAny region.stops r = true →
      (nodes (tag depth (block depth levels)) region).run (x ++ r) = (ns, r)

/-- A tag is read from `x`, which stands behind its opening mark, as `n`. -/
def TagReadsAs (x : List Char) (n : Node) : Prop :=
  ∀ depth levels, x.length ≤ depth → x.length ≤ levels → ∀ r,
    (tag depth (block depth levels)).run (x ++ r) = (n, r)

/-- A fallback is read from `x`: there is none, or nodes behind an else tag. -/
def FallbackReadsAs (x : List Char) (fallback : Option (List Node)) : Prop :=
  (x = [] ∧ fallback = none) ∨
    ∃ y ns, x = elseMark ++ (tagClose ++ y) ∧ fallback = some ns ∧ BodyReadsAs y ns

/-- What follows the body of a branch is read from `x` as further branches and a fallback. -/
def BranchesReadAs (x : List Char) (rest : List (Expr × List Node))
    (fallback : Option (List Node)) : Prop :=
  ∀ depth levels, x.length ≤ depth → x.length ≤ levels →
    ∀ condition body y, BodyReadsAs y body → y.length ≤ depth → y.length ≤ levels → ∀ r,
      branchesFrom depth (nodes (tag depth (block depth levels))) condition (y ++ (x ++ r)) =
        (((condition, body) :: rest, fallback), r)

/-- The end of a tag that comes next is passed. -/
lemma run_pastClose (r : List Char) : pastClose.run (tagClose ++ r) = ((), r) :=
  rfl

/-- What begins an expression is read as one at the head of a tag. -/
lemma run_head_of_begins (depth : Nat) {c : Char} {s t : List Char}
    (hs : s.dropWhile Text.isBlank = c :: t) (hc : beginsExpr c = true) :
    (head depth).run s = (expression depth).reader.run (c :: t) := by
  have hhead : ∀ d, beginsExpr d = false → HeadNot (· == d) (c :: t) := fun d hd =>
    headNot_cons (beq_eq_false_iff_ne.mpr (ne_of_beginsExpr hc hd))
  have hempty : (c :: t).isEmpty = false := rfl
  have hclose : tagClose.isPrefixOf (c :: t) = false := (hhead '}' (by decide)).isPrefixOf
  have hrawClose : rawClose.isPrefixOf (c :: t) = false := (hhead '+' (by decide)).isPrefixOf
  unfold head
  rw [run_bind, run_blanks, hs, run_bind, run_atEnd, hempty, run_bind, run_isAt, hclose, run_bind,
    run_isAt, hrawClose]
  rfl

/-- The expression at the head of a tag is read together with the blanks around it. -/
lemma run_head (style : Style) {e : Expr} (h : e.printable = true) {depth : Nat}
    (hdepth : (e.source style).length ≤ depth) {s r : List Char}
    (hs : s.dropWhile Text.isBlank = e.source style ++ r) (hr : HeadNot extendsExpr r)
    (hbar : HeadNot (· == '|') (r.dropWhile Text.isBlank)) :
    (head depth).run s = (e, r.dropWhile Text.isBlank) := by
  obtain ⟨c, t, hc, hbegins⟩ := source_eq_cons style h
  have hsource : e.source style ++ r = c :: (t ++ r) := by rw [hc, List.cons_append]
  rw [run_head_of_begins depth (hs.trans hsource) hbegins, ← hsource]
  exact (Expr.readsAs style h).run_expression (by simp [hc]) hdepth hr hbar

/-- The expression at the head of a tag is read up to the closing mark. -/
lemma run_head_close (style outer : Style) (k : Nat) {e : Expr} (h : e.printable = true)
    {depth : Nat} (hdepth : (e.source style).length ≤ depth) {s r : List Char}
    (hs : s.dropWhile Text.isBlank = e.source style ++ (outer.blanks k ++ (tagClose ++ r))) :
    (head depth).run s = (e, tagClose ++ r) := by
  have hend : (outer.blanks k ++ (tagClose ++ r)).dropWhile Text.isBlank = tagClose ++ r := by
    rw [outer.dropWhile_blanks]
    rfl
  rw [run_head style h hdepth hs, hend]
  · exact headNot_blanks (fun c => extendsExpr_of_isBlank) (headNot_cons (by decide))
  · rw [hend]
    exact headNot_cons (by decide)

/-- The source of an expression, with blanks in front, does not begin with another mark. -/
lemma headNot_source (style outer : Style) (k : Nat) {e : Expr} (h : e.printable = true)
    (r : List Char) {d : Char} (hblank : Text.isBlank d = false) (hd : beginsExpr d = false) :
    HeadNot (· == d) (outer.blanks k ++ (e.source style ++ r)) := by
  obtain ⟨c, t, hc, hbegins⟩ := source_eq_cons style h
  refine headNot_blanks (fun c hc => beq_of_isBlank hc hblank) ?_
  rw [hc]
  exact headNot_cons (beq_eq_false_iff_ne.mpr (ne_of_beginsExpr hbegins hd))

/-- The source of an expression begins with no blank. -/
lemma dropWhile_source (style : Style) {e : Expr} (h : e.printable = true) (r : List Char) :
    (e.source style ++ r).dropWhile Text.isBlank = e.source style ++ r := by
  obtain ⟨c, t, hc, hbegins⟩ := source_eq_cons style h
  rw [hc]
  exact List.dropWhile_cons_of_neg (by simp [isBlank_of_beginsExpr hbegins])

/-- The source of an interpolation is read as the interpolation. -/
lemma interpolation_readsAs (style : Style) {e : Expr} (h : e.printable = true) (raw : Bool) :
    TagReadsAs (rawMark raw ++ (style.blanks 0 ++ (e.source (style.part 0) ++ (style.blanks 1 ++
      (rawMark raw ++ tagClose))))) (.interpolation e raw) := by
  intro depth levels hdepth _ r
  simp only [List.length_append] at hdepth
  unfold tag
  cases raw with
  | false =>
    simp only [rawMark, Bool.false_eq_true, if_false, List.nil_append, List.append_assoc]
    rw [run_bind, (headNot_source _ _ _ h _ (by decide) (by decide)).run_eat]
    dsimp only
    rw [if_neg Bool.false_ne_true, run_bind,
      (headNot_source _ _ _ h _ (by decide) (by decide)).run_eat]
    dsimp only
    rw [if_neg Bool.false_ne_true, run_bind, run_head_close (style.part 0) style 1 h (by omega)
      ((style.dropWhile_blanks 0 _).trans (dropWhile_source _ h _))]
    rfl
  | true =>
    simp only [rawMark, if_true, List.append_assoc]
    have hr : (style.blanks 1 ++ (['+'] ++ (tagClose ++ r))).dropWhile Text.isBlank =
        '+' :: (tagClose ++ r) := by
      rw [style.dropWhile_blanks]
      rfl
    have hends : HeadNot extendsExpr (style.blanks 1 ++ (['+'] ++ (tagClose ++ r))) :=
      headNot_blanks (fun c => extendsExpr_of_isBlank) (headNot_cons (by decide))
    have hbar : HeadNot (· == '|')
        ((style.blanks 1 ++ (['+'] ++ (tagClose ++ r))).dropWhile Text.isBlank) := by
      rw [hr]
      exact headNot_cons (by decide)
    have hlength : (e.source (style.part 0)).length ≤ depth := by omega
    have hhead := run_head (style.part 0) h hlength
      ((style.dropWhile_blanks 0 _).trans (dropWhile_source _ h _)) hends hbar
    rw [run_bind, List.cons_append, HeadNot.run_eat (headNot_cons (by decide))]
    dsimp only
    rw [if_neg Bool.false_ne_true, run_bind, run_eat_cons]
    dsimp only
    rw [if_pos rfl, List.nil_append, run_bind, hhead, hr]
    rfl

/-- The mark of a fallback begins one. -/
lemma run_elseTag_fallback (depth : Nat) (r : List Char) :
    (elseTag depth).run (elseMark ++ (tagClose ++ r)) = (none, r) :=
  rfl

/-- The `if` of an else tag is read, in one word with it or behind blanks. -/
lemma run_elseIf (style : Style) {r : List Char} (h : HeadNot Text.isWordChar r) :
    elseIf.run ((if (style []).joinedElseIf then [] else style.gap 1) ++ (['i', 'f'] ++ r)) =
      (true, r) := by
  unfold elseIf
  cases (style []).joinedElseIf with
  | true =>
    rw [if_pos rfl, List.nil_append, run_bind, run_eat_append]
    rfl
  | false =>
    obtain ⟨c, b, hgap, hc⟩ := style.gap_eq_cons 1
    have hif : HeadNot (· == 'i') (style.gap 1 ++ (['i', 'f'] ++ r)) :=
      headNot_gap fun c hc => beq_of_isBlank hc (by decide)
    have hblanks : (style.gap 1 ++ (['i', 'f'] ++ r)).dropWhile Text.isBlank = ['i', 'f'] ++ r := by
      rw [style.dropWhile_gap]
      rfl
    have hpeek : (style.gap 1 ++ (['i', 'f'] ++ r)).head?.any Text.isBlank = true := by
      rw [hgap]
      exact hc
    rw [if_neg Bool.false_ne_true, run_bind, hif.run_eat]
    dsimp only
    rw [if_neg Bool.false_ne_true, run_bind, run_peek?]
    dsimp only
    rw [if_pos hpeek, run_bind, run_blanks, hblanks]
    exact run_keyword_append ['i', 'f'] h

/-- The tag of a further branch is read back. -/
lemma run_elseTag_branch (style : Style) {e : Expr} (h : e.printable = true) {depth : Nat}
    (hdepth : (e.source (style.part 0)).length ≤ depth) (r : List Char) :
    (elseTag depth).run (elseIfMark style ++ (style.gap 0 ++ (e.source (style.part 0) ++
      (style.blanks 0 ++ (tagClose ++ r))))) = (some e, r) := by
  have hgap : HeadNot Text.isWordChar (style.gap 0 ++ (e.source (style.part 0) ++
      (style.blanks 0 ++ (tagClose ++ r)))) := headNot_gap fun c => isWordChar_of_isBlank
  unfold elseTag elseIfMark
  simp only [List.append_assoc]
  rw [run_bind, run_skip, List.drop_left, run_bind, run_elseIf style hgap]
  dsimp only
  rw [if_pos rfl, run_bind, run_head_close (style.part 0) style 0 h hdepth
    ((style.dropWhile_gap 0 _).trans (dropWhile_source _ h _))]
  rfl

section
variable {depth levels : Nat} {y : List Char} {body : List Node} (hy : BodyReadsAs y body)
  (hdepth : y.length ≤ depth) (hlevels : y.length ≤ levels) (condition : Expr)
include hy hdepth hlevels

/-- The tag of another branch ends a body, and what comes behind it is read as that branch. -/
lemma branchesFrom_branch (style : Style) {e : Expr} (he : e.printable = true)
    (hlength : (e.source (style.part 0)).length ≤ depth) {s r : List Char}
    {branches : List (Expr × List Node)} {fallback : Option (List Node)}
    (hbranches : branchesFrom depth (nodes (tag depth (block depth levels))) e s =
      ((branches, fallback), r)) :
    branchesFrom depth (nodes (tag depth (block depth levels))) condition
        (y ++ (elseIfMark style ++ (style.gap 0 ++ (e.source (style.part 0) ++
          (style.blanks 0 ++ (tagClose ++ s)))))) =
      (((condition, body) :: branches, fallback), r) := by
  have hmark (s : List Char) : elseIfMark style ++ s = elseMark ++
      ((if (style []).joinedElseIf then [] else style.gap 1) ++ (['i', 'f'] ++ s)) := by
    simp only [elseIfMark, List.append_assoc]
  have hbody := hy depth levels hdepth hlevels .ifBody (elseIfMark style ++ (style.gap 0 ++
    (e.source (style.part 0) ++ (style.blanks 0 ++ (tagClose ++ s))))) (by
      rw [hmark]
      rfl)
  rw [branchesFrom_more hbody (by rw [hmark]; simp [elseMark, endIf, tagOpen, List.isPrefixOf])
    (run_elseTag_branch style he hlength s), hbranches]

/-- The tag of a fallback ends a body, and what comes behind it is read as the fallback. -/
lemma branchesFrom_else {s r : List Char} {ns : List Node}
    (hns : (nodes (tag depth (block depth levels)) .ifFallback).run s = (ns, r)) :
    branchesFrom depth (nodes (tag depth (block depth levels))) condition
        (y ++ (elseMark ++ (tagClose ++ s))) =
      (([(condition, body)], some ns), ((eat endIf).run r).2) := by
  have hbody := hy depth levels hdepth hlevels .ifBody (elseMark ++ (tagClose ++ s)) rfl
  exact branchesFrom_fallback hbody (by simp [elseMark, endIf, tagOpen, List.isPrefixOf])
    (run_elseTag_fallback depth s) hns

end

/-- The end of a conditional is read as no more branches. -/
lemma branchesReadAs_end : BranchesReadAs endIf [] none := by
  intro depth levels _ _ condition body y hy hdepth hlevels r
  have hbody := hy depth levels hdepth hlevels .ifBody (endIf ++ r) rfl
  rw [branchesFrom_last hbody (.inl rfl)]
  rfl

/-- The source of a fallback is read as the last part of a conditional. -/
lemma branchesReadAs_fallback {x : List Char} {ns : List Node} (h : BodyReadsAs x ns) :
    BranchesReadAs (elseMark ++ (tagClose ++ x) ++ endIf) [] (some ns) := by
  intro depth levels hxdepth hxlevels condition body y hy hdepth hlevels r
  simp only [List.length_append] at hxdepth hxlevels
  simp only [List.append_assoc]
  have hfallback := h depth levels (by omega) (by omega) .ifFallback (endIf ++ r) rfl
  rw [branchesFrom_else hy hdepth hlevels condition hfallback]
  rfl

/-- The source of a branch is read in front of other branches. -/
lemma BranchesReadAs.cons (style : Style) {e : Expr} (he : e.printable = true)
    {x z : List Char} {ns : List Node} {rest : List (Expr × List Node)}
    {fallback : Option (List Node)} (hns : BodyReadsAs z ns) (h : BranchesReadAs x rest fallback) :
    BranchesReadAs (elseIfMark style ++ (style.gap 0 ++ (e.source (style.part 0) ++
      (style.blanks 0 ++ (tagClose ++ (z ++ x)))))) ((e, ns) :: rest) fallback := by
  intro depth levels hxdepth hxlevels condition body y hy hdepth hlevels r
  simp only [List.length_append] at hxdepth hxlevels
  simp only [List.append_assoc]
  have hmore := h depth levels (by omega) (by omega) e ns z hns (by omega) (by omega) r
  exact branchesFrom_branch hy hdepth hlevels condition style he (by omega) hmore

section
variable {depth levels : Nat} {s : List Char} (h : HeadNot Text.isWordChar s)
include h

/-- The keyword of a block decides how the block is read. -/
lemma run_tag_block {w : String} (hw : Text.isWord w = true) :
    (tag depth (block depth (levels + 1))).run ('#' :: (w.toList ++ s)) =
      (if w = "if" then conditional depth (nodes (tag depth (block depth levels)))
        else if w = "each" then loop depth (nodes (tag depth (block depth levels)))
        else pure (.text (Fault.unknownBlock w).message)).run s := by
  rw [tag, run_bind, run_eat_cons]
  dsimp only
  rw [if_pos rfl, block, delay_eq, run_bind, run_word_append hw h]

/-- The tag of a conditional begins one, a level deeper. -/
lemma run_tag_if :
    (tag depth (block depth (levels + 1))).run ('#' :: 'i' :: 'f' :: s) =
      (conditional depth (nodes (tag depth (block depth levels)))).run s := by
  refine (run_tag_block h (w := "if") (by decide)).trans ?_
  rw [if_pos rfl]

/-- The tag of a loop begins one, a level deeper. -/
lemma run_tag_each :
    (tag depth (block depth (levels + 1))).run ('#' :: 'e' :: 'a' :: 'c' :: 'h' :: s) =
      (loop depth (nodes (tag depth (block depth levels)))).run s := by
  refine (run_tag_block h (w := "each") (by decide)).trans ?_
  rw [if_neg (by decide), if_pos rfl]

end

/-- Behind the tag of a conditional come its branches. -/
lemma run_tag_conditional (style : Style) {e : Expr} (he : e.printable = true) {depth levels : Nat}
    (hdepth : (e.source (style.part 0)).length ≤ depth) (s : List Char) :
    (tag depth (block depth (levels + 1))).run ('#' :: 'i' :: 'f' :: (style.gap 0 ++
        (e.source (style.part 0) ++ (style.blanks 0 ++ (tagClose ++ s))))) =
      let parts := branchesFrom depth (nodes (tag depth (block depth levels))) e s
      (.conditional parts.1.1 parts.1.2, parts.2) := by
  rw [run_tag_if (headNot_gap fun c => isWordChar_of_isBlank)]
  unfold conditional
  rw [run_bind, run_head_close (style.part 0) style 0 he hdepth
    ((style.dropWhile_gap 0 _).trans (dropWhile_source _ he _)), run_bind, run_pastClose]
  rfl

/-- The source of a conditional is read as the conditional. -/
lemma conditional_readsAs (style : Style) {e : Expr} (he : e.printable = true) {x z : List Char}
    {ns : List Node} {rest : List (Expr × List Node)} {fallback : Option (List Node)}
    (hns : BodyReadsAs z ns) (h : BranchesReadAs x rest fallback) :
    TagReadsAs ('#' :: 'i' :: 'f' :: (style.gap 0 ++ (e.source (style.part 0) ++
      (style.blanks 0 ++ (tagClose ++ (z ++ x)))))) (.conditional ((e, ns) :: rest) fallback) := by
  intro depth levels hdepth hlevels r
  simp only [List.length_cons, List.length_append] at hdepth hlevels
  obtain ⟨levels, rfl⟩ : ∃ n, levels = n + 1 := ⟨levels - 1, by omega⟩
  simp only [List.cons_append, List.append_assoc]
  rw [run_tag_conditional style he (by omega),
    h depth levels (by omega) (by omega) e ns z hns (by omega) (by omega) r]

/-- The closing mark is found behind blanks. -/
lemma fromClose_append {b : List Char} (h : ∀ c ∈ b, Text.isBlank c = true) (r : List Char) :
    fromClose (b ++ (tagClose ++ r)) = tagClose ++ r := by
  induction b with
  | nil => rfl
  | cons c b ih =>
    have hc : HeadNot (· == '}') (c :: (b ++ (tagClose ++ r))) :=
      headNot_cons (beq_of_isBlank (h c List.mem_cons_self) (by decide))
    have hopen : tagClose.isPrefixOf (c :: (b ++ (tagClose ++ r))) = false := hc.isPrefixOf
    rw [List.cons_append, fromClose, if_neg (by rw [hopen]; exact Bool.false_ne_true)]
    exact ih fun d hd => h d (List.mem_cons_of_mem c hd)

/-- The name of the item of a loop ends before its index or the end of its tag. -/
lemma headNot_indexSource (style : Style) (index : Option String) (r : List Char) :
    HeadNot Text.isWordChar (indexSource style index ++ (style.blanks 0 ++ (tagClose ++ r))) := by
  cases index with
  | none => exact headNot_blanks (fun c => isWordChar_of_isBlank) (headNot_cons (by decide))
  | some index =>
    rw [indexSource, List.append_assoc]
    exact headNot_blanks (fun c => isWordChar_of_isBlank) (headNot_cons (by decide))

/-- The index of a loop is read back, up to the end of its tag. -/
lemma run_loopIndex (style : Style) {index : Option String} (h : index.all Text.isName = true)
    (r : List Char) :
    ∃ s, loopIndex.run ((indexSource style index ++ (style.blanks 0 ++ (tagClose ++ r))).dropWhile
      Text.isBlank) = (index, s) ∧ fromClose s = tagClose ++ r := by
  unfold loopIndex
  cases index with
  | none =>
    refine ⟨tagClose ++ r, ?_, rfl⟩
    rw [indexSource, List.nil_append, style.dropWhile_blanks]
    rfl
  | some index =>
    have hend : HeadNot Text.isWordChar (style.blanks 0 ++ (tagClose ++ r)) :=
      headNot_indexSource style none r
    have hclose := fromClose_append ((style []).optional 0).isBlank r
    refine ⟨style.blanks 0 ++ (tagClose ++ r), ?_, hclose⟩
    rw [indexSource, List.append_assoc, style.dropWhile_blanks, List.cons_append,
      List.dropWhile_cons_of_neg (by decide), run_bind, run_eat_cons]
    dsimp only
    rw [if_pos rfl, run_bind, run_blanks, List.append_assoc, style.dropWhile_blanks,
      dropWhile_name h, run_map, run_word_name h hend]

/-- Behind the body of a loop, its fallback or its end comes next. -/
lemma FallbackReadsAs.stop {x : List Char} {fallback : Option (List Node)}
    (h : FallbackReadsAs x fallback) (r : List Char) :
    beginsWithAny Region.eachBody.stops (x ++ (endEach ++ r)) = true := by
  obtain ⟨rfl, _⟩ | ⟨y, ns, rfl, _, _⟩ := h
  · rfl
  · rfl

/-- Nodes behind an else tag are the fallback of a loop. -/
lemma run_loopFallback_else {nodes : Region → Reader (List Node)} {s r : List Char} {ns : List Node}
    (h : (nodes .eachFallback).run s = (ns, r)) :
    (loopFallback nodes).run (elseMark ++ (tagClose ++ s)) = (some ns, r) := by
  have hmark : elseMark.isPrefixOf (elseMark ++ (tagClose ++ s)) = true := rfl
  have hpast : pastClose.run (elseMark ++ (tagClose ++ s)) = ((), s) := rfl
  unfold loopFallback
  rw [run_bind, run_isAt, hmark]
  dsimp only
  rw [if_pos rfl, run_bind, hpast, run_map, h]

/-- The source of a fallback is read in front of the end of a loop. -/
lemma FallbackReadsAs.run_loopFallback {x : List Char} {fallback : Option (List Node)}
    (h : FallbackReadsAs x fallback) {depth levels : Nat} (hdepth : x.length ≤ depth)
    (hlevels : x.length ≤ levels) (r : List Char) :
    (loopFallback (nodes (tag depth (block depth levels)))).run (x ++ (endEach ++ r)) =
      (fallback, endEach ++ r) := by
  obtain ⟨rfl, rfl⟩ | ⟨y, ns, rfl, rfl, hns⟩ := h
  · rfl
  · simp only [List.length_append] at hdepth hlevels
    simp only [List.append_assoc]
    exact run_loopFallback_else
      (hns depth levels (by omega) (by omega) .eachFallback (endEach ++ r) rfl)

/-- Behind the tag of a loop come its body, its fallback and its end. -/
lemma run_tag_loop (style : Style) {source : Expr} (hsource : source.printable = true)
    {item : String} (hitem : Text.isName item = true) {index : Option String}
    (hindex : index.all Text.isName = true) {depth levels : Nat}
    (hdepth : (source.source (style.part 0)).length ≤ depth) (s : List Char) :
    (tag depth (block depth (levels + 1))).run ('#' :: 'e' :: 'a' :: 'c' :: 'h' :: (style.gap 0 ++
        (source.source (style.part 0) ++ (style.gap 1 ++ ('a' :: 's' :: (style.gap 2 ++
          (item.toList ++ (indexSource style index ++ (style.blanks 0 ++ (tagClose ++ s)))))))))) =
      let nodes := nodes (tag depth (block depth levels))
      (do
        let body ← nodes .eachBody
        let fallback ← loopFallback nodes
        discard (eat endEach)
        pure (.loop source item index body fallback) : Reader Node).run s := by
  obtain ⟨t, hrunIndex, hclose⟩ := run_loopIndex style hindex s
  have hpast : pastClose.run t = ((), s) := by
    unfold pastClose
    rw [run_bind, run_toClose, hclose]
    rfl
  have hbehindItem := headNot_indexSource style index s
  -- From here on only the next part of the tag matters, so what follows it gets a name.
  generalize htag : indexSource style index ++ (style.blanks 0 ++ (tagClose ++ s)) = tag at *
  have has : ('a' :: 's' :: (style.gap 2 ++ (item.toList ++ tag))).dropWhile Text.isBlank =
      ['a', 's'] ++ (style.gap 2 ++ (item.toList ++ tag)) := rfl
  have hhead := run_head (style.part 0) hsource hdepth
    (s := style.gap 0 ++ (source.source (style.part 0) ++
      (style.gap 1 ++ ('a' :: 's' :: (style.gap 2 ++ (item.toList ++ tag))))))
    ((style.dropWhile_gap 0 _).trans (dropWhile_source _ hsource _))
    (headNot_gap fun c => extendsExpr_of_isBlank)
    (by rw [style.dropWhile_gap]; exact headNot_cons (by decide))
  rw [style.dropWhile_gap, has] at hhead
  rw [run_tag_each (headNot_gap fun c => isWordChar_of_isBlank)]
  unfold loop
  rw [run_bind, hhead, run_bind, run_blanks]
  dsimp only
  rw [← has, List.dropWhile_idempotent, has, run_bind,
    run_keyword_append ['a', 's'] (headNot_gap fun c => isWordChar_of_isBlank)]
  dsimp only
  rw [if_pos rfl, run_bind, run_blanks, style.dropWhile_gap, dropWhile_name hitem, run_bind,
    run_word_name hitem hbehindItem, run_bind, run_blanks, run_bind, hrunIndex, run_bind, hpast]

/-- The source of a loop is read as the loop. -/
lemma loop_readsAs (style : Style) {source : Expr} (hsource : source.printable = true)
    {item : String} (hitem : Text.isName item = true) {index : Option String}
    (hindex : index.all Text.isName = true) {x z : List Char} {body : List Node}
    {fallback : Option (List Node)} (hbody : BodyReadsAs z body)
    (hfallback : FallbackReadsAs x fallback) :
    TagReadsAs ('#' :: 'e' :: 'a' :: 'c' :: 'h' :: (style.gap 0 ++ (source.source (style.part 0) ++
      (style.gap 1 ++ ('a' :: 's' :: (style.gap 2 ++ (item.toList ++ (indexSource style index ++
        (style.blanks 0 ++ (tagClose ++ (z ++ (x ++ endEach))))))))))))
      (.loop source item index body fallback) := by
  intro depth levels hdepth hlevels r
  simp only [List.length_cons, List.length_append] at hdepth hlevels
  obtain ⟨levels, rfl⟩ : ∃ n, levels = n + 1 := ⟨levels - 1, by omega⟩
  simp only [List.cons_append, List.append_assoc]
  have hrunBody := hbody depth levels (by omega) (by omega) .eachBody (x ++ (endEach ++ r))
    (hfallback.stop r)
  have hxdepth : x.length ≤ depth := by omega
  have hxlevels : x.length ≤ levels := by omega
  rw [run_tag_loop style hsource hitem hindex (by omega)]
  dsimp only
  rw [run_bind, hrunBody, run_bind, hfallback.run_loopFallback hxdepth hxlevels r]
  rfl

end Stencil

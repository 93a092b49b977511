import Stencil.Proofs.Limits.Widening

/-!
# Wider limits for templates

A template that was read with some limits reads the same with wider ones, unless its tree is cut:
each reader for a part of a template widens with the limits (`nodes_widens`, `block_widens`). The
check finds the texts of a cut tree but not its literals. So a clean check alone does not tell that
nothing was cut off (`check_clean_of_cut_off`); it does so together with the absence of such
literals, and for no tree that has one without having spelled it itself (`parse_eq_of_check_clean`).
-/

namespace Stencil

open Delimiter Reader

/-- What a cut leaves of a node. -/
def CutNode (n : Node) (_ : List Char) : Prop :=
  n.anyString isCutText isTooDeep = true

/-- What a cut leaves of some nodes. -/
def CutNodes (ns : List Node) (_ : List Char) : Prop :=
  anyNodes isCutText isTooDeep ns = true

/-- What a cut leaves of a fallback. -/
def CutFallback (fallback : Option (List Node)) (_ : List Char) : Prop :=
  anyFallback isCutText isTooDeep fallback = true

/-- What a cut leaves of the branches and the fallback of a conditional. -/
def CutParts (parts : List (Expr × List Node) × Option (List Node)) (_ : List Char) : Prop :=
  anyBranches isCutText isTooDeep parts.1 = true ∨ anyFallback isCutText isTooDeep parts.2 = true

/-- What a cut leaves of the condition in an else tag. -/
def CutElse (condition : Option Expr) (_ : List Char) : Prop :=
  ∃ e, condition = some e ∧ e.anyLiteral isTooDeep = true

/-- Nodes are cut before one of them, in it, or after it. -/
lemma cutNodes_iff {before : List Node} {n : Node} {after : List Node} :
    anyNodes isCutText isTooDeep (before ++ n :: after) = true ↔
      anyNodes isCutText isTooDeep before = true ∨ n.anyString isCutText isTooDeep = true ∨
        anyNodes isCutText isTooDeep after = true := by
  rw [anyNodes_append, anyNodes, Bool.or_eq_true, Bool.or_eq_true]

/-- Branches are cut in the condition or the body of the first one, or in another one. -/
lemma cutBranches_iff {condition : Expr} {body : List Node} {rest : List (Expr × List Node)} :
    anyBranches isCutText isTooDeep ((condition, body) :: rest) = true ↔
      condition.anyLiteral isTooDeep = true ∨ anyNodes isCutText isTooDeep body = true ∨
        anyBranches isCutText isTooDeep rest = true := by
  rw [anyBranches, Bool.or_assoc, Bool.or_eq_true, Bool.or_eq_true]

/-- Nodes widen with the tags in them. -/
lemma nodes_widens {tag wideTag : Reader Node} (h : Widens CutNode tag wideTag) (region : Region) :
    Widens CutNodes (nodes tag region) (nodes wideTag region) := by
  intro s
  change nodesFrom wideTag region.stops s = nodesFrom tag region.stops s ∨
    CutNodes (nodesFrom tag region.stops s).1 (nodesFrom tag region.stops s).2
  fun_induction nodesFrom tag region.stops s with
  | case1 s t hend => exact .inl (nodesFrom_end hend)
  | case2 s t hend hlt n more ih =>
    obtain heq | hcut := h (t.2.drop tagOpen.length)
    · obtain hmore | hcut := ih
      · left
        rw [nodesFrom_tag (n := n.1) (r := n.2) hend heq, hmore]
      · exact .inr (cutNodes_iff.mpr (.inr (.inr hcut)))
    · exact .inr (cutNodes_iff.mpr (.inr (.inl hcut)))

section
variable {depth wider : Nat} (hd : depth ≤ wider)

include hd in
/-- Else tags widen with the levels for their conditions. -/
lemma elseTag_widens : Widens CutElse (elseTag depth) (elseTag wider) := by
  refine Widens.step (skip _) fun _ => Widens.step elseIf fun joined => ?_
  cases joined with
  | true =>
    exact (head_widens hd).bind (fun condition => .refl _) fun e s hcut => ⟨e, rfl, hcut.1⟩
  | false => exact .refl _

section
variable {nodes wideNodes : Region → Reader (List Node)}

/-- A condition that stands for what is too deep is kept in the first branch. -/
lemma branchesFrom_cut_condition {condition : Expr} (h : condition.anyLiteral isTooDeep = true)
    (s r : List Char) : CutParts (branchesFrom depth nodes condition s).1 r := by
  left
  fun_cases branchesFrom depth nodes condition s with
  | case1 body close hend => exact cutBranches_iff.mpr (.inl h)
  | case2 body close hend hlt next c hc more => exact cutBranches_iff.mpr (.inl h)
  | case3 body close hend hlt next hc fallback => exact cutBranches_iff.mpr (.inl h)

variable (h : ∀ region, Widens CutNodes (nodes region) (wideNodes region))
include hd h

/-- Branches widen with the nodes in them and the levels for their conditions. -/
lemma branchesFrom_widens (condition : Expr) (s : List Char) :
    branchesFrom wider wideNodes condition s = branchesFrom depth nodes condition s ∨
      CutParts (branchesFrom depth nodes condition s).1
        (branchesFrom depth nodes condition s).2 := by
  fun_induction branchesFrom depth nodes condition s with
  | case1 condition s body close hend =>
    obtain hbody | hcut := h .ifBody s
    · exact .inl (branchesFrom_last hbody hend)
    · exact .inr (.inl (cutBranches_iff.mpr (.inr (.inl hcut))))
  | case2 condition s body close hend hlt next c hc more ih =>
    obtain hbody | hcut := h .ifBody s
    · obtain helse | ⟨e, he, hcut⟩ := elseTag_widens hd body.2
      · obtain hmore | hcut := ih
        · left
          rw [branchesFrom_more hbody hend (helse.trans (Prod.ext hc rfl)), hmore]
        · right
          exact hcut.imp (fun hcut => cutBranches_iff.mpr (.inr (.inr hcut))) id
      · right
        -- the condition that was cut off stands in the next branch, whatever the rest of it is
        obtain rfl : c = e := Option.some_inj.mp (hc.symm.trans he)
        obtain hmore | hmore := branchesFrom_cut_condition hcut next.2 []
        · exact .inl (cutBranches_iff.mpr (.inr (.inr hmore)))
        · exact .inr hmore
    · exact .inr (.inl (cutBranches_iff.mpr (.inr (.inl hcut))))
  | case3 condition s body close hend hlt next hc fallback =>
    obtain hbody | hcut := h .ifBody s
    · obtain helse | ⟨e, he, hcut⟩ := elseTag_widens hd body.2
      · obtain hfallback | hcut := h .ifFallback next.2
        · left
          rw [branchesFrom_fallback hbody hend (helse.trans (Prod.ext hc rfl)) hfallback]
        · exact .inr (.inr hcut)
      · cases hc.symm.trans he
    · exact .inr (.inl (cutBranches_iff.mpr (.inr (.inl hcut))))

/-- A conditional widens with the nodes in it. -/
lemma conditional_widens :
    Widens CutNode (conditional depth nodes) (conditional wider wideNodes) := by
  refine (head_widens hd).bind (fun condition => Widens.step pastClose fun _ => ?_)
    fun condition s hcut => ?_
  · have hparts : Widens CutParts
        ⟨branchesFrom depth nodes condition, branchesFrom_length_le depth nodes condition⟩
        ⟨branchesFrom wider wideNodes condition,
          branchesFrom_length_le wider wideNodes condition⟩ :=
      branchesFrom_widens hd h condition
    refine hparts.bind (fun parts => .refl _) fun parts s hcut => ?_
    exact Bool.or_eq_true_iff.mpr hcut
  · exact Bool.or_eq_true_iff.mpr (branchesFrom_cut_condition hcut.1 _ [])

omit hd in
/-- The fallback of a loop widens with its nodes. -/
lemma loopFallback_widens : Widens CutFallback (loopFallback nodes) (loopFallback wideNodes) := by
  refine Widens.step (isAt _) fun other => ?_
  cases other with
  | false => exact .refl _
  | true =>
    refine Widens.step pastClose fun _ => ?_
    exact Widens.bind (h .eachFallback) (fun ns => .refl (pure (some ns))) fun ns s hcut => hcut

/-- Loops widen. A source that was cut off has no `as` behind it, so a text takes the place of its
loop. -/
lemma loop_widens : Widens CutNode (loop depth nodes) (loop wider wideNodes) := by
  refine (head_widens hd).bind (fun source => ?_) fun source s hcut => ?_
  · refine Widens.step blanks fun _ => Widens.step (keyword _) fun named => ?_
    cases named with
    | false => exact .refl _
    | true =>
      refine Widens.step blanks fun _ => Widens.step word fun item => ?_
      refine Widens.step blanks fun _ => Widens.step loopIndex fun index => ?_
      refine Widens.step pastClose fun _ => ?_
      refine (h .eachBody).bind (fun body => ?_) fun body s hcut => ?_
      · refine (loopFallback_widens h).bind (fun fallback => .refl _) fun fallback s hcut => ?_
        exact Bool.or_eq_true_iff.mpr (.inr hcut)
      · exact Bool.or_eq_true_iff.mpr (.inl (Bool.or_eq_true_iff.mpr (.inr hcut)))
  · -- the literal is lost with its loop, and the text in its place tells of the cut
    rw [run_bind, run_blanks, hcut.2.dropWhile_isBlank, run_bind, hcut.2.keyword_as]
    exact beq_self_eq_true Fault.missingAs.message

end

include hd

/-- Tags widen with the blocks that they open. -/
lemma tag_widens {block wideBlock : Reader Node} (h : Widens CutNode block wideBlock) :
    Widens CutNode (tag depth block) (tag wider wideBlock) := by
  refine Widens.step (eat ['#']) fun opens => ?_
  cases opens with
  | true => exact h
  | false =>
    refine Widens.step (eat ['+']) fun raw => ?_
    cases raw with
    | true => exact (head_widens hd).bind (fun e => .refl _) fun e s hcut => hcut.1
    | false => exact (head_widens hd).bind (fun e => .refl _) fun e s hcut => hcut.1

/-- Blocks widen with their levels. -/
lemma block_widens {levels wideLevels : Nat} (hl : levels ≤ wideLevels) :
    Widens CutNode (block depth levels) (block wider wideLevels) := by
  induction levels generalizing wideLevels with
  | zero =>
    have hcut : ∀ x : Reader Node, Widens CutNode (pure (.text Fault.tooDeep.message)) x :=
      fun x s => .inr rfl
    cases wideLevels with
    | zero => exact .refl _
    | succ wideLevels =>
      -- without a level only these two keywords are cut off; for others the message is the same
      rw [block, block, delay_eq]
      refine Widens.step word fun keyword => ?_
      by_cases hif : keyword = "if"
      · rw [if_pos (.inl hif)]
        exact hcut _
      by_cases heach : keyword = "each"
      · rw [if_pos (.inr heach)]
        exact hcut _
      rw [if_neg (not_or.mpr ⟨hif, heach⟩), if_neg hif, if_neg heach]
      exact .refl _
  | succ levels ih =>
    obtain ⟨wideLevels, rfl⟩ : ∃ n, wideLevels = n + 1 := ⟨wideLevels - 1, by omega⟩
    have hnodes := nodes_widens (tag_widens hd (ih (Nat.le_of_succ_le_succ hl)))
    rw [block, block, delay_eq, delay_eq]
    refine Widens.step word fun keyword => ?_
    refine Widens.ite (conditional_widens hd hnodes) ?_
    refine Widens.ite (loop_widens hd hnodes) ?_
    exact .refl _

end

namespace Template

/-- A template that is not too long is read as without a limit for the length. -/
lemma parse_of_not_long {limits : Limits} {s : String}
    (h : ¬(limits.length.any fun n => n < s.utf8ByteSize) = true) :
    parse limits s = parse ⟨limits.depth, none⟩ s := by
  rw [parse, if_neg h]
  rfl

/-- What is read with more levels, and no limit for the length, is the same, unless the tree is
cut. -/
lemma parse_depth_widens {depth wider : Nat} (h : depth ≤ wider) (s : String) :
    parse ⟨wider, none⟩ s = parse ⟨depth, none⟩ s ∨
      anyNodes isCutText isTooDeep (parse ⟨depth, none⟩ s).nodes = true := by
  obtain heq | hcut := nodes_widens (tag_widens h (block_widens h h)) .outermost s.toList
  · left
    exact congrArg (fun r => Template.mk r.1) heq
  · exact .inr hcut

/-- What is read with wider limits, and none for the length, is the same, unless the tree is cut or
stands for a template that is too long. -/
lemma parse_widens (limits : Limits) {depth : Nat} (h : limits.depth ≤ depth) (s : String) :
    parse ⟨depth, none⟩ s = parse limits s ∨
      anyNodes isCutText isTooDeep (parse limits s).nodes = true ∨
        parse limits s = ⟨[.text Fault.templateTooLarge.message]⟩ := by
  by_cases hlength : (limits.length.any fun n => n < s.utf8ByteSize) = true
  · right
    right
    rw [parse, if_pos hlength]
  · rw [parse_of_not_long hlength]
    exact (parse_depth_widens h s).imp_right .inl

/-- A template whose tree has no problem, and no literal that stands for what is too deep, was read
as with any wider limits. So nothing was cut off. And if there is such a literal although it is not
one of the template's own, because some wider limits leave none, then those limits give another
tree. -/
theorem parse_eq_of_check_clean {limits : Limits} {registry : Registry} {s : String}
    (h : (parse limits s).check registry = []) {depth : Nat} (hdepth : limits.depth ≤ depth) :
    ((parse limits s).hasCutOff = false → parse ⟨depth, none⟩ s = parse limits s) ∧
      ((parse ⟨depth, none⟩ s).hasCutOff = false →
        (parse ⟨depth, none⟩ s = parse limits s ↔ (parse limits s).hasCutOff = false)) := by
  have hsame (hclean : (parse limits s).hasCutOff = false) :
      parse ⟨depth, none⟩ s = parse limits s := by
    obtain heq | hcut | hlong := parse_widens limits hdepth s
    · exact heq
    · -- the check knows the texts of a cut, so what was cut off is an expression
      rw [checkNodes_cut h] at hcut
      rw [hasCutOff, hcut] at hclean
      contradiction
    · rw [hlong] at h
      simp [check, checkNodes, checkNode, problemsHere, isRecoveryText] at h
  refine ⟨hsame, fun hwide => ⟨fun heq => ?_, hsame⟩⟩
  rw [← heq]
  exact hwide

/-- Two levels are enough for a pipe. -/
theorem parse_eq_of_check_clean_of_pipe :
    (parse ⟨2, none⟩ "{{ a | trim }}").check .standard = [] ∧
      (parse ⟨2, none⟩ "{{ a | trim }}").hasCutOff = false ∧
        parse ⟨64, none⟩ "{{ a | trim }}" = parse ⟨2, none⟩ "{{ a | trim }}" := by
  have hclean : (parse ⟨2, none⟩ "{{ a | trim }}").check .standard = [] := by decide +kernel
  have hcut : (parse ⟨2, none⟩ "{{ a | trim }}").hasCutOff = false := by decide +kernel
  exact ⟨hclean, hcut, (parse_eq_of_check_clean hclean (by decide)).1 hcut⟩

/-- With one level a pipe is cut off, and the check says nothing. -/
theorem check_clean_of_cut_off :
    (parse ⟨1, none⟩ "{{ a | trim }}").check .standard = [] ∧
      parse ⟨2, none⟩ "{{ a | trim }}" ≠ parse ⟨1, none⟩ "{{ a | trim }}" := by
  refine ⟨by decide +kernel, fun heq => ?_⟩
  have hnarrow : (parse ⟨1, none⟩ "{{ a | trim }}").hasCutOff = true := by decide +kernel
  have hwide : (parse ⟨2, none⟩ "{{ a | trim }}").hasCutOff = false := by decide +kernel
  rw [heq, hnarrow] at hwide
  contradiction

end Template

end Stencil

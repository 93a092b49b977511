import Mathlib.Data.List.Chain
import Stencil.Proofs.Tree.ReadExpression

/-!
# What is read as a template

Every region is read in the same way: tags, and texts between them. What a tag becomes is said once,
by the cases of `TagNode`: an interpolation, a conditional or a loop of regions that have been read
in turn, or a message. A property of regions that is kept when texts and such nodes are laid side by
side holds of every template that is read (`Template.parse_induction`), at every depth and with
every limits.

Main statement: reading makes only trees of the form described in `Form` (`Template.parse_formed`).
-/

namespace Stencil

open Reader

/-- What a tag becomes, if the expressions in tags are of one kind and the regions inside of
another. -/
inductive TagNode (expr : Expr → Prop) (region : List Node → Prop) : Node → Prop
  | interpolation {e : Expr} {raw : Bool} : expr e → TagNode expr region (.interpolation e raw)
  | conditional {branches : List (Expr × List Node)} {fallback : Option (List Node)} :
    branches ≠ [] → (∀ b ∈ branches, expr b.1) → (∀ b ∈ branches, region b.2) →
    (∀ ns ∈ fallback, region ns) → TagNode expr region (.conditional branches fallback)
  | loop {source : Expr} {item : String} {index : Option String} {body : List Node}
      {fallback : Option (List Node)} :
    expr source → Text.isWord item = true → (∀ w ∈ index, Text.isWord w = true) → region body →
    (∀ ns ∈ fallback, region ns) → TagNode expr region (.loop source item index body fallback)
  | message {f : Fault} : f.marksTag = true → TagNode expr region (.text f.message)

/-- Nodes of some kind, with a text before, between or behind them where there is one. -/
inductive Laid (p : Node → Prop) : List Node → Prop
  | nil : Laid p []
  | text {t : List Char} : t ≠ [] → Laid p [.text (String.ofList t)]
  | node {n : Node} {ns : List Node} : p n → Laid p ns → Laid p (n :: ns)
  | textNode {t : List Char} {n : Node} {ns : List Node} :
    t ≠ [] → p n → Laid p ns → Laid p (.text (String.ofList t) :: n :: ns)

section
variable {p : Node → Prop}

/-- A text alone is laid. -/
lemma laid_textNodes (t : List Char) : Laid p (textNodes t) := by
  unfold textNodes
  split
  · exact .nil
  · case isFalse h => exact .text h

/-- A text, a node and what is laid behind it are laid. -/
lemma Laid.textNodes_append {n : Node} {ns : List Node} (t : List Char) (hn : p n)
    (h : Laid p ns) : Laid p (textNodes t ++ n :: ns) := by
  unfold textNodes
  split
  · exact .node hn h
  · case isFalse ht => exact .textNode ht hn h

/-- A region is laid of the nodes that its tags become. -/
lemma nodes_yields {tag : Reader Node} (h : tag.Yields p) (region : Region) :
    (nodes tag region).Yields (Laid p) := by
  intro s
  change Laid p (nodesFrom tag region.stops s).1
  fun_induction nodesFrom tag region.stops s with
  | case1 s t hend => exact laid_textNodes t.1
  | case2 s t hend hlt n more ih => exact ih.textNodes_append t.1 (h _)

end

section
variable {expr : Expr → Prop} {region : List Node → Prop} {depth : Nat}
  (hexpr : (head depth).Yields expr)
include hexpr

/-- The condition in an else tag is the head of a tag. -/
lemma elseTag_yields : (elseTag depth).Yields fun condition => ∀ e ∈ condition, expr e := by
  refine Yields.step (skip _) fun _ => Yields.step elseIf fun joined => ?_
  cases joined with
  | true =>
    refine hexpr.bind fun condition hcondition => Yields.step pastClose fun _ => .pure ?_
    rintro e ⟨⟩
    exact hcondition
  | false => exact Yields.step pastClose fun _ => .pure nofun

section
variable {nodes : Region → Reader (List Node)} (hnodes : ∀ r, (nodes r).Yields region)
include hnodes

/-- There is a branch, and the parts of branches and fallback are what their readers yield. -/
lemma branchesFrom_yields {condition : Expr} (hcondition : expr condition) (s : List Char) :
    ∃ branches fallback, (branchesFrom depth nodes condition s).1 = (branches, fallback) ∧
      branches ≠ [] ∧ (∀ b ∈ branches, expr b.1) ∧ (∀ b ∈ branches, region b.2) ∧
      ∀ ns ∈ fallback, region ns := by
  fun_induction branchesFrom depth nodes condition s with
  | case1 condition s body close hend =>
    refine ⟨_, _, rfl, List.cons_ne_nil _ _, ?_, ?_, ?_⟩
    · exact List.forall_mem_singleton.mpr hcondition
    · exact List.forall_mem_singleton.mpr (hnodes _ s)
    · exact fun ns hns => absurd hns (Option.not_mem_none ns)
  | case2 condition s body close hend hlt next c hc more ih =>
    obtain ⟨branches, fallback, heq, _, hconditions, hbodies, hfallback⟩ :=
      ih (elseTag_yields hexpr body.2 c hc)
    refine ⟨_, _, rfl, List.cons_ne_nil _ _, ?_, ?_, ?_⟩
    · rw [heq]
      exact List.forall_mem_cons.mpr ⟨hcondition, hconditions⟩
    · rw [heq]
      exact List.forall_mem_cons.mpr ⟨hnodes _ s, hbodies⟩
    · rw [heq]
      exact hfallback
  | case3 condition s body close hend hlt next hc fallback =>
    refine ⟨_, _, rfl, List.cons_ne_nil _ _, ?_, ?_, ?_⟩
    · exact List.forall_mem_singleton.mpr hcondition
    · exact List.forall_mem_singleton.mpr (hnodes _ s)
    · rintro ns ⟨⟩
      exact hnodes _ next.2

/-- What is read as a conditional is one, of regions. -/
lemma conditional_yields : (conditional depth nodes).Yields (TagNode expr region) := by
  refine hexpr.bind fun condition hcondition => Yields.step pastClose fun _ s => ?_
  obtain ⟨branches, fallback, heq, hne, hconditions, hbodies, hfallback⟩ :=
    branchesFrom_yields hexpr hnodes hcondition s
  rw [run_bind, run_pure]
  dsimp only
  rw [heq]
  exact .conditional hne hconditions hbodies hfallback

omit hexpr in
/-- What is read as the fallback of a loop is a region. -/
lemma loopFallback_yields :
    (loopFallback nodes).Yields fun fallback => ∀ ns ∈ fallback, region ns := by
  refine Yields.step (isAt _) fun other => ?_
  cases other with
  | false => exact .pure nofun
  | true =>
    refine Yields.step pastClose fun _ s => ?_
    rintro ns ⟨⟩
    exact hnodes .eachFallback s

omit hexpr hnodes in
/-- What is read as the name of an index is a word. -/
lemma loopIndex_yields : loopIndex.Yields fun index => ∀ w ∈ index, Text.isWord w = true := by
  refine Yields.step (eat _) fun comma => ?_
  cases comma with
  | false => exact .pure nofun
  | true =>
    refine Yields.step blanks fun _ s => ?_
    rintro w ⟨⟩
    exact word_yields s

/-- What is read as a loop is one, of regions. -/
lemma loop_yields : (loop depth nodes).Yields (TagNode expr region) := by
  refine hexpr.bind fun source hsource => ?_
  refine Yields.step blanks fun _ => Yields.step (keyword _) fun named => ?_
  cases named with
  | false => exact Yields.step pastClose fun _ => .pure (.message rfl)
  | true =>
    refine Yields.step blanks fun _ => word_yields.bind fun item hitem => ?_
    refine Yields.step blanks fun _ => loopIndex_yields.bind fun index hindex => ?_
    refine Yields.step pastClose fun _ => (hnodes .eachBody).bind fun body hbody => ?_
    refine (loopFallback_yields hnodes).bind fun fallback hfallback => ?_
    exact Yields.step _ fun _ => .pure (.loop hsource hitem hindex hbody hfallback)

end

/-- A tag is an interpolation or opens a block. -/
lemma tag_yields {block : Reader Node} (h : block.Yields (TagNode expr region)) :
    (tag depth block).Yields (TagNode expr region) := by
  refine Yields.step (eat _) fun opens => ?_
  cases opens with
  | true => exact h
  | false =>
    refine Yields.step (eat _) fun raw => ?_
    cases raw with
    | true =>
      refine hexpr.bind fun e he => Yields.step blanks fun _ => Yields.step _ fun _ => ?_
      exact Yields.step pastClose fun _ => .pure (.interpolation he)
    | false => exact hexpr.bind fun e he => Yields.step pastClose fun _ => .pure (.interpolation he)

/-- The regions in a block with some levels left: without a level there are none, and with one they
are read with one level less. -/
def inside (region : Nat → List Node → Prop) : Nat → List Node → Prop
  | 0, _ => False
  | levels + 1, ns => region levels ns

omit hexpr in
/-- What is inside of any number of levels is a region. -/
lemma of_inside {levels : Nat} {ns : List Node} (h : inside (fun _ => region) levels ns) :
    region ns := by
  cases levels with
  | zero => exact h.elim
  | succ levels => exact h

omit region in
/-- Without a level left a block is a message; with one, its regions are read with one level
less. -/
lemma block_yields {region : Nat → List Node → Prop}
    (hlaid : ∀ levels ns, Laid (TagNode expr (inside region levels)) ns → region levels ns)
    (levels : Nat) : (block depth levels).Yields (TagNode expr (inside region levels)) := by
  induction levels with
  | zero =>
    refine word_yields.bind fun keyword hkeyword => ?_
    exact Yields.ite (fun _ => .pure (.message rfl)) fun _ => .pure (.message hkeyword)
  | succ levels ih =>
    have hnodes (r : Region) : (nodes (tag depth (block depth levels)) r).Yields (region levels) :=
      (nodes_yields (tag_yields hexpr ih) r).mono (hlaid levels)
    rw [block, delay_eq]
    refine word_yields.bind fun keyword hkeyword => ?_
    refine Yields.ite (fun _ => conditional_yields hexpr hnodes) fun _ => ?_
    exact Yields.ite (fun _ => loop_yields hexpr hnodes) fun _ => .pure (.message hkeyword)

end

/-- What holds of all texts and of all nodes of a kind holds of all nodes that are laid of them. -/
lemma Laid.forall_mem {p q : Node → Prop} {ns : List Node} (h : Laid p ns)
    (htext : ∀ t ≠ [], q (.text (String.ofList t))) (hnode : ∀ n, p n → q n) :
    ∀ n ∈ ns, q n := by
  induction h with
  | nil => exact nofun
  | text ht => exact List.forall_mem_singleton.mpr (htext _ ht)
  | node hn _ ih => exact List.forall_mem_cons.mpr ⟨hnode _ hn, ih⟩
  | textNode ht hn _ ih =>
    exact List.forall_mem_cons.mpr ⟨htext _ ht, List.forall_mem_cons.mpr ⟨hnode _ hn, ih⟩⟩

section
variable {expr : Expr → Prop} {region : List Node → Prop}

/-- If all is of a kind in the regions of which a tag becomes a node, all is in the node. -/
lemma TagNode.every {inner : List Node → Prop} {n : Node}
    (hinner : ∀ ns, inner ns → Template.Every region expr ⟨ns⟩) (h : TagNode expr inner n) :
    n.Every region expr := by
  cases h with
  | interpolation he => exact .interpolation he
  | conditional _ hconditions hbodies hfallback =>
    exact .conditional hconditions (fun b hb => (hinner _ (hbodies b hb)).1)
      (fun b hb => (hinner _ (hbodies b hb)).2) (fun ns hns => (hinner _ (hfallback ns hns)).1)
      fun ns hns => (hinner _ (hfallback ns hns)).2
  | loop hsource _ _ hbody hfallback =>
    exact .loop hsource (hinner _ hbody).1 (hinner _ hbody).2
      (fun ns hns => (hinner _ (hfallback ns hns)).1) fun ns hns => (hinner _ (hfallback ns hns)).2
  | message _ => exact .text

namespace Template

variable {limits : Limits} (hexpr : (head limits.depth).Yields expr)
include hexpr

omit region in
/-- A property of regions that are read with some levels for the blocks in them holds of a template
that has been read, if it holds of all that is laid of texts and of the nodes that tags become when
their own regions have the property with one level less. -/
theorem parse_induction {region : Nat → List Node → Prop}
    (hlaid : ∀ levels ns, Laid (TagNode expr (inside region levels)) ns → region levels ns)
    (hlong : region limits.depth [.text Fault.templateTooLarge.message]) (s : String) :
    region limits.depth (parse limits s).nodes := by
  unfold parse
  split
  · exact hlong
  · have htag := tag_yields hexpr (block_yields hexpr hlaid limits.depth)
    exact hlaid _ _ (nodes_yields htag .outermost s.toList)

/-- A property of single regions holds of all regions of a template that has been read, if it holds
of what is laid of texts and of the nodes that tags become, whatever their own regions are. -/
theorem parse_every (hlaid : ∀ inner ns, Laid (TagNode expr inner) ns → region ns)
    (hlong : region [.text Fault.templateTooLarge.message]) (s : String) :
    (parse limits s).Every region expr := by
  have hdeep (levels : Nat) (ns : List Node)
      (h : Laid (TagNode expr (inside (fun _ ns => Every region expr ⟨ns⟩) levels)) ns) :
      Every region expr ⟨ns⟩ :=
    ⟨hlaid _ ns h, h.forall_mem (fun _ _ => .text) fun _ hn => hn.every fun _ => of_inside⟩
  exact parse_induction hexpr hdeep ⟨hlong, List.forall_mem_singleton.mpr .text⟩ s

end Template

end

/-- Expressions that are read have the form described above, whatever the levels are. -/
lemma formedExpr_invariant : ExprInvariant (fun _ => FormedExpr) fun _ _ => FormedExpr where
  cutOff _ := .literal rfl
  literal h := .literal h
  path h := .path h
  call h hargs := .call h hargs
  pipe hinput h hargs := .pipe h hinput hargs
  finish h := h

/-- No message is empty, since none has an empty end. -/
lemma Fault.message_ne_empty (f : Fault) : f.message ≠ "" := by
  cases f with
  | unknownFunction name =>
    intro h
    exact absurd (String.append_eq_empty_iff.mp h).2 (by decide)
  | tooFewArguments name needed =>
    intro h
    exact absurd (String.append_eq_empty_iff.mp h).2 (by decide)
  | unknownBlock keyword =>
    intro h
    exact absurd (String.append_eq_empty_iff.mp h).2 (by decide)
  | _ => decide

section
variable {expr : Expr → Prop} {inner : List Node → Prop} {n : Node} {ns : List Node}

/-- A node that a tag becomes has the form of such a node. -/
lemma TagNode.isFormed (h : TagNode expr inner n) : n.isFormed = true := by
  cases h with
  | interpolation _ => rfl
  | @conditional branches fallback hne =>
    cases branches with
    | nil => contradiction
    | cons b rest => rfl
  | @loop _ item index _ _ _ hitem hindex =>
    rw [Node.isFormed, hitem, Bool.true_and]
    cases index with
    | none => rfl
    | some w => exact hindex w rfl
  | @message f _ => exact bne_iff_ne.mpr f.message_ne_empty

/-- A node that a tag becomes may stand before and behind any other. -/
lemma TagNode.mayMeet (h : TagNode expr inner n) (m : Node) : MayMeet n m ∧ MayMeet m n := by
  cases h with
  | message hf =>
    cases m with
    | text s => exact ⟨.inl ⟨_, hf, rfl⟩, .inr ⟨_, hf, rfl⟩⟩
    | _ => exact ⟨trivial, trivial⟩
  | _ =>
    cases m with
    | _ => exact ⟨trivial, trivial⟩

/-- Texts and nodes that tags become stand side by side as they may. -/
lemma Laid.formedRegion (h : Laid (TagNode expr inner) ns) : FormedRegion ns := by
  refine ⟨h.forall_mem (fun t ht => ?_) fun n hn => hn.isFormed, ?_⟩
  · rw [Node.isFormed, bne_iff_ne, Ne, ← String.toList_eq_nil_iff, String.toList_ofList]
    exact ht
  · induction h with
    | nil => exact .nil
    | text _ => exact .singleton _
    | node hn _ ih => exact List.isChain_cons.mpr ⟨fun m _ => (hn.mayMeet m).1, ih⟩
    | textNode _ hn _ ih =>
      have hbehind := List.isChain_cons.mpr ⟨fun m _ => (hn.mayMeet m).1, ih⟩
      exact List.isChain_cons_cons.mpr ⟨(hn.mayMeet _).2, hbehind⟩

end

/-- Whatever the template and the limits are, all regions and all expressions of the tree that is
read have the form described above. -/
theorem Template.parse_formed (limits : Limits) (s : String) :
    (parse limits s).Every FormedRegion FormedExpr := by
  have hexpr : (head limits.depth).Yields FormedExpr :=
    formedExpr_invariant.head_yields (.literal rfl)
  refine parse_every hexpr (fun _ _ h => h.formedRegion) ⟨?_, .singleton _⟩ s
  exact List.forall_mem_singleton.mpr rfl

end Stencil

import Stencil.Proofs.Rendering.Congruence
import Stencil.Proofs.Tree.Parts

/-!
# Pipes and chains of branches as sugar

A pipe is a call with its input in front of the arguments, and a conditional with more branches than
one is a conditional whose fallback is a conditional with the other branches. Desugaring writes both
out at every depth of a tree: in the arguments of calls, in conditions and sources, in bodies and
fallbacks. Main statement: what is left has neither pipes nor chains of branches, and it renders to
the same output with the same host calls.
-/

namespace Stencil

mutual

/-- The expression with every pipe in it written as a call. -/
def Expr.desugar : Expr → Expr
  | .literal v => .literal v
  | .path segments => .path segments
  | .call name args => .call name (desugarExprs args)
  | .pipe input name args => .call name (input.desugar :: desugarExprs args)

/-- The expressions without pipes. -/
def desugarExprs : List Expr → List Expr
  | [] => []
  | e :: es => e.desugar :: desugarExprs es

end

/-- Some branches and a fallback as conditionals inside one another, with a branch each. -/
def Node.nested : List (Expr × List Node) → Option (List Node) → Node
  | [], fallback => .conditional [] fallback
  | [branch], fallback => .conditional [branch] fallback
  | branch :: next :: rest, fallback =>
    .conditional [branch] (some [nested (next :: rest) fallback])

mutual

/-- The node with every pipe in it written as a call, and every chain of branches as conditionals
inside one another. -/
def Node.desugar : Node → Node
  | .text s => .text s
  | .interpolation e raw => .interpolation e.desugar raw
  | .conditional branches fallback =>
    .nested (desugarBranches branches) (desugarFallback fallback)
  | .loop source item index body fallback =>
    .loop source.desugar item index (desugarNodes body) (desugarFallback fallback)

/-- The nodes without sugar. -/
def desugarNodes : List Node → List Node
  | [] => []
  | n :: ns => n.desugar :: desugarNodes ns

/-- The branches without sugar. -/
def desugarBranches : List (Expr × List Node) → List (Expr × List Node)
  | [] => []
  | (condition, body) :: rest => (condition.desugar, desugarNodes body) :: desugarBranches rest

/-- The fallback without sugar. -/
def desugarFallback : Option (List Node) → Option (List Node)
  | none => none
  | some ns => some (desugarNodes ns)

end

/-- The template without sugar. -/
def Template.desugar (template : Template) : Template :=
  ⟨desugarNodes template.nodes⟩

/-- Whether an expression is a pipe. -/
def Expr.isPipe : Expr → Bool
  | .pipe _ _ _ => true
  | _ => false

/-- An expression has no pipe in it. -/
def PipeFree (e : Expr) : Prop :=
  e.Every fun e => e.isPipe = false

/-- Whether a node is a conditional with more branches than one. -/
def Node.isChain : Node → Bool
  | .conditional branches _ => 1 < branches.length
  | _ => false

/-- No node of a region is a chain of branches. -/
def ChainFree (ns : List Node) : Prop :=
  ∀ n ∈ ns, n.isChain = false

/-- A node without sugar, inside and outside. -/
structure Node.Unsugared (n : Node) : Prop where
  isChain : n.isChain = false
  every : n.Every ChainFree PipeFree

mutual

/-- No pipe is left in an expression. -/
lemma Expr.desugar_pipeFree (e : Expr) : PipeFree e.desugar := by
  cases e with
  | literal v => exact .literal rfl
  | path segments => exact .path rfl
  | call name args => exact .call rfl (desugarExprs_pipeFree args)
  | pipe input name args =>
    exact .call rfl (List.forall_mem_cons.mpr ⟨input.desugar_pipeFree, desugarExprs_pipeFree args⟩)

/-- No pipe is left in any of some expressions. -/
lemma desugarExprs_pipeFree (es : List Expr) : ∀ e ∈ desugarExprs es, PipeFree e := by
  cases es with
  | nil => exact nofun
  | cons e es =>
    exact List.forall_mem_cons.mpr ⟨e.desugar_pipeFree, desugarExprs_pipeFree es⟩

end

namespace Node.Unsugared

/-- A conditional of one branch is without sugar if its parts are. -/
lemma conditional {branches : List (Expr × List Node)} {fallback : Option (List Node)}
    (hone : branches.length ≤ 1)
    (hbranches : ∀ b ∈ branches, PipeFree b.1 ∧ ∀ n ∈ b.2, n.Unsugared)
    (hfallback : ∀ ns ∈ fallback, ∀ n ∈ ns, n.Unsugared) :
    (Node.conditional branches fallback).Unsugared where
  isChain := decide_eq_false (Nat.not_lt.mpr hone)
  every := .conditional (fun b hb => (hbranches b hb).1)
    (fun b hb n hn => ((hbranches b hb).2 n hn).isChain)
    (fun b hb n hn => ((hbranches b hb).2 n hn).every)
    (fun ns hns n hn => (hfallback ns hns n hn).isChain)
    (fun ns hns n hn => (hfallback ns hns n hn).every)

/-- A loop is without sugar if its parts are. -/
lemma loop {source : Expr} {item : String} {index : Option String} {body : List Node}
    {fallback : Option (List Node)} (hsource : PipeFree source) (hbody : ∀ n ∈ body, n.Unsugared)
    (hfallback : ∀ ns ∈ fallback, ∀ n ∈ ns, n.Unsugared) :
    (Node.loop source item index body fallback).Unsugared where
  isChain := rfl
  every := .loop hsource (fun n hn => (hbody n hn).isChain) (fun n hn => (hbody n hn).every)
    (fun ns hns n hn => (hfallback ns hns n hn).isChain)
    (fun ns hns n hn => (hfallback ns hns n hn).every)

/-- Nesting leaves no chain of branches behind. -/
lemma nested {branches : List (Expr × List Node)} {fallback : Option (List Node)}
    (hbranches : ∀ b ∈ branches, PipeFree b.1 ∧ ∀ n ∈ b.2, n.Unsugared)
    (hfallback : ∀ ns ∈ fallback, ∀ n ∈ ns, n.Unsugared) :
    (Node.nested branches fallback).Unsugared := by
  induction branches with
  | nil => exact conditional (Nat.zero_le 1) hbranches hfallback
  | cons branch rest ih =>
    cases rest with
    | nil => exact conditional (Nat.le_refl 1) hbranches hfallback
    | cons next rest =>
      obtain ⟨hbranch, hrest⟩ := List.forall_mem_cons.mp hbranches
      refine conditional (Nat.le_refl 1) (List.forall_mem_singleton.mpr hbranch) ?_
      intro ns hns
      cases hns
      exact List.forall_mem_singleton.mpr (ih hrest)

end Node.Unsugared

mutual

/-- No sugar is left in a node. -/
lemma Node.desugar_unsugared (n : Node) : n.desugar.Unsugared := by
  cases n with
  | text s => exact ⟨rfl, .text⟩
  | interpolation e raw => exact ⟨rfl, .interpolation e.desugar_pipeFree⟩
  | conditional branches fallback =>
    exact .nested (desugarBranches_unsugared branches) (desugarFallback_unsugared fallback)
  | loop source item index body fallback =>
    exact .loop source.desugar_pipeFree (desugarNodes_unsugared body)
      (desugarFallback_unsugared fallback)

/-- No sugar is left in any of some nodes. -/
lemma desugarNodes_unsugared (ns : List Node) : ∀ n ∈ desugarNodes ns, n.Unsugared := by
  cases ns with
  | nil => exact nofun
  | cons n ns =>
    exact List.forall_mem_cons.mpr ⟨n.desugar_unsugared, desugarNodes_unsugared ns⟩

/-- No sugar is left in any of some branches. -/
lemma desugarBranches_unsugared (branches : List (Expr × List Node)) :
    ∀ b ∈ desugarBranches branches, PipeFree b.1 ∧ ∀ n ∈ b.2, n.Unsugared := by
  cases branches with
  | nil => exact nofun
  | cons branch rest =>
    obtain ⟨condition, body⟩ := branch
    exact List.forall_mem_cons.mpr
      ⟨⟨condition.desugar_pipeFree, desugarNodes_unsugared body⟩, desugarBranches_unsugared rest⟩

/-- No sugar is left in a fallback. -/
lemma desugarFallback_unsugared (fallback : Option (List Node)) :
    ∀ ns ∈ desugarFallback fallback, ∀ n ∈ ns, n.Unsugared := by
  cases fallback with
  | none => exact nofun
  | some ns =>
    intro ms hms
    cases hms
    exact desugarNodes_unsugared ns

end

section
variable {registry : Registry} {scope : Scope}

mutual

/-- A pipe and the call for it have one value and make the same host calls. -/
lemma evaluate_desugar (e : Expr) :
    evaluate registry scope e.desugar = evaluate registry scope e := by
  cases e with
  | literal v => rw [Expr.desugar]
  | path segments => rw [Expr.desugar]
  | call name args => rw [Expr.desugar, evaluate_call, evaluate_call, operands_desugar args]
  | pipe input name args =>
    rw [Expr.desugar, evaluate_call, evaluate_pipe, operands_cons, evaluate_desugar input,
      operands_desugar args]

/-- Expressions have the same values as operands without pipes. -/
lemma operands_desugar (es : List Expr) :
    operands registry scope (desugarExprs es) = operands registry scope es := by
  cases es with
  | nil => rw [desugarExprs]
  | cons e es => 
    rw [desugarExprs, operands_cons, operands_cons, evaluate_desugar e, operands_desugar es]

end

/-- One node renders as it does alone. -/
lemma renderNodes_singleton (n : Node) :
    renderNodes registry scope [n] = renderNode registry scope n := by
  simp [renderNodes_cons, renderNodes_nil]

/-- Without branches a conditional renders its fallback. -/
lemma renderNode_conditional_nil (fallback : Option (List Node)) :
    renderNode registry scope (.conditional [] fallback) =
      renderFallback registry scope fallback := by
  rw [renderNode_conditional, renderBranches_nil, pure_bind]

/-- A conditional renders its first branch if the condition is true, and goes on with the other
branches if not. -/
lemma renderNode_conditional_cons (condition : Expr) (body : List Node)
    (rest : List (Expr × List Node)) (fallback : Option (List Node)) :
    renderNode registry scope (.conditional ((condition, body) :: rest) fallback) = (do
      let v ← evaluate registry scope condition
      if v.isTruthy then renderNodes registry scope body
      else renderNode registry scope (.conditional rest fallback)) := by
  rw [renderNode_conditional, renderNode_conditional, renderBranches_cons, bind_assoc]
  refine bind_congr fun v => ?_
  cases v.isTruthy with
  | true => simp
  | false => rfl

/-- Conditionals inside one another choose like the chain of their branches. -/
lemma renderNode_nested (branches : List (Expr × List Node)) (fallback : Option (List Node)) :
    renderNode registry scope (.nested branches fallback) =
      renderNode registry scope (.conditional branches fallback) := by
  induction branches with
  | nil => rw [Node.nested]
  | cons branch rest ih =>
    cases rest with
    | nil => rw [Node.nested]
    | cons next rest =>
      obtain ⟨condition, body⟩ := branch
      rw [Node.nested, renderNode_conditional_cons, renderNode_conditional_cons,
        renderNode_conditional_nil, renderFallback_some, renderNodes_singleton, ih]

end

section
variable {registry : Registry}

mutual

/-- A node renders like the node without sugar. -/
lemma renderNode_desugar (n : Node) (scope : Scope) :
    renderNode registry scope n.desugar = renderNode registry scope n := by
  cases n with
  | text s => rw [Node.desugar]
  | interpolation e raw => exact renderNode_interpolation_congr (evaluate_desugar e) raw
  | conditional branches fallback =>
    rw [Node.desugar, renderNode_nested]
    exact renderNode_conditional_congr (renderBranches_desugar branches scope)
      (renderFallback_desugar fallback scope)
  | loop source item index body fallback =>
    exact renderNode_loop_congr (evaluate_desugar source) (fun _ _ => renderNodes_desugar body _)
      (renderFallback_desugar fallback scope)

/-- Nodes render like the nodes without sugar. -/
lemma renderNodes_desugar (ns : List Node) (scope : Scope) :
    renderNodes registry scope (desugarNodes ns) = renderNodes registry scope ns := by
  cases ns with
  | nil => rw [desugarNodes]
  | cons n ns =>
    exact renderNodes_cons_congr (renderNode_desugar n scope) (renderNodes_desugar ns scope)

/-- Branches render like the branches without sugar. -/
lemma renderBranches_desugar (branches : List (Expr × List Node)) (scope : Scope) :
    renderBranches registry scope (desugarBranches branches) =
      renderBranches registry scope branches := by
  cases branches with
  | nil => rw [desugarBranches]
  | cons branch rest =>
    obtain ⟨condition, body⟩ := branch
    exact renderBranches_cons_congr (evaluate_desugar condition) (renderNodes_desugar body scope)
      (renderBranches_desugar rest scope)

/-- A fallback renders like the fallback without sugar. -/
lemma renderFallback_desugar (fallback : Option (List Node)) (scope : Scope) :
    renderFallback registry scope (desugarFallback fallback) =
      renderFallback registry scope fallback := by
  cases fallback with
  | none => rw [desugarFallback]
  | some ns => exact renderNodes_desugar ns scope

end

end

/-- Pipes and chains of branches are sugar: a template can be written without any of them, and then
renders to the same output with the same host calls, for every registry and all data. -/
theorem Template.desugar_every_and_render_eq (template : Template) :
    template.desugar.Every ChainFree PipeFree ∧
      ∀ (registry : Registry) (data : Fields Value),
        template.desugar.render registry data = template.render registry data := by
  refine ⟨⟨?_, ?_⟩, ?_⟩
  · exact fun n hn => (desugarNodes_unsugared template.nodes n hn).isChain
  · exact fun n hn => (desugarNodes_unsugared template.nodes n hn).every
  · exact fun registry data => renderNodes_desugar template.nodes (.ofData data)

/-- A condition with a pipe, and a second branch. -/
example : Template.desugar ⟨[.conditional
      [(.pipe (.path ["x"]) "eq" [.path ["y"]], [.text "same"]), (.path ["x"], [])] none]⟩ =
    ⟨[.conditional [(.call "eq" [.path ["x"], .path ["y"]], [.text "same"])]
      (some [.conditional [(.path ["x"], [])] none])]⟩ := rfl

end Stencil

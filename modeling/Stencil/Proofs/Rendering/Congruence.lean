import Mathlib.Tactic.Lemma
import Stencil.Evaluation.Render

/-!
# Renders from the renders of parts

What a node renders to is put together from what its parts evaluate and render to, and from nothing
else. So two nodes of one kind, each with its own registry and in its own scope, render alike if
their parts do, one by one. This holds of the output and of the host calls together. For a loop the
bodies are compared round by round, in the scope of the round.
-/

namespace Stencil

section
variable {r₁ r₂ : Registry} {s₁ s₂ : Scope}

/-- A call depends on the registry only through the function that is called. -/
lemma Registry.call_congr {name : String} (h : r₁.get? name = r₂.get? name)
    (args : List (Traced Value)) : r₁.call name args = r₂.call name args := by
  rw [Registry.call_eq, Registry.call_eq, h]

/-- Interpolations render alike if their expressions have one value. -/
lemma renderNode_interpolation_congr {e₁ e₂ : Expr} (h : evaluate r₁ s₁ e₁ = evaluate r₂ s₂ e₂)
    (raw : Bool) :
    renderNode r₁ s₁ (.interpolation e₁ raw) = renderNode r₂ s₂ (.interpolation e₂ raw) := by
  rw [renderNode_interpolation, renderNode_interpolation, h]

/-- Conditionals render alike if their branches and fallbacks do. -/
lemma renderNode_conditional_congr {branches₁ branches₂ : List (Expr × List Node)}
    {fallback₁ fallback₂ : Option (List Node)}
    (hbranches : renderBranches r₁ s₁ branches₁ = renderBranches r₂ s₂ branches₂)
    (hfallback : renderFallback r₁ s₁ fallback₁ = renderFallback r₂ s₂ fallback₂) :
    renderNode r₁ s₁ (.conditional branches₁ fallback₁) =
      renderNode r₂ s₂ (.conditional branches₂ fallback₂) := by
  rw [renderNode_conditional, renderNode_conditional, hbranches, hfallback]

/-- Loops render alike if their sources have one value, and their rounds and fallbacks render alike.
-/
lemma renderNode_loop_congr {source₁ source₂ : Expr} {item₁ item₂ : String}
    {index₁ index₂ : Option String} {body₁ body₂ : List Node}
    {fallback₁ fallback₂ : Option (List Node)}
    (hsource : evaluate r₁ s₁ source₁ = evaluate r₂ s₂ source₂)
    (hbody : ∀ v i,
      renderNodes r₁ (s₁.push ⟨item₁, v, index₁.map fun name => (name, i)⟩) body₁ =
        renderNodes r₂ (s₂.push ⟨item₂, v, index₂.map fun name => (name, i)⟩) body₂)
    (hfallback : renderFallback r₁ s₁ fallback₁ = renderFallback r₂ s₂ fallback₂) :
    renderNode r₁ s₁ (.loop source₁ item₁ index₁ body₁ fallback₁) =
      renderNode r₂ s₂ (.loop source₂ item₂ index₂ body₂ fallback₂) := by
  have hround (p : Value × Nat) := hbody p.1 p.2
  rw [renderNode_loop, renderNode_loop, hsource]
  refine bind_congr fun v => ?_
  cases v with
  | array items =>
    cases items with
    | nil => exact hfallback
    | cons first items =>
      exact congrArg (fun f => Traced.concat ((first :: items).zipIdx.map f)) (funext hround)
  | _ => rfl

/-- Nodes render alike if the first ones and the others do. -/
lemma renderNodes_cons_congr {n₁ n₂ : Node} {ns₁ ns₂ : List Node}
    (hn : renderNode r₁ s₁ n₁ = renderNode r₂ s₂ n₂)
    (hns : renderNodes r₁ s₁ ns₁ = renderNodes r₂ s₂ ns₂) :
    renderNodes r₁ s₁ (n₁ :: ns₁) = renderNodes r₂ s₂ (n₂ :: ns₂) := by
  rw [renderNodes_cons, renderNodes_cons, hn, hns]

/-- Branches render alike if the first ones and the others do. -/
lemma renderBranches_cons_congr {condition₁ condition₂ : Expr} {body₁ body₂ : List Node}
    {rest₁ rest₂ : List (Expr × List Node)}
    (hcondition : evaluate r₁ s₁ condition₁ = evaluate r₂ s₂ condition₂)
    (hbody : renderNodes r₁ s₁ body₁ = renderNodes r₂ s₂ body₂)
    (hrest : renderBranches r₁ s₁ rest₁ = renderBranches r₂ s₂ rest₂) :
    renderBranches r₁ s₁ ((condition₁, body₁) :: rest₁) =
      renderBranches r₂ s₂ ((condition₂, body₂) :: rest₂) := by
  rw [renderBranches_cons, renderBranches_cons, hcondition, hbody, hrest]

end

end Stencil

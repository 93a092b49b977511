import Mathlib.Tactic.Lemma
import Stencil.Template.Tree

/-!
# Parts of trees

What is said of a tree is mostly said of all its parts of one kind. The parts of a template are its
regions, which are the lists of nodes that stand side by side, and the expressions in its tags;
`Template.Every` says that all regions, at every depth, are of one kind and all expressions of
another. The parts of an expression are itself and the expressions inside it (`Expr.Every`).
-/

namespace Stencil

/-- All parts of an expression are of one kind. -/
inductive Expr.Every (p : Expr → Prop) : Expr → Prop
  | literal {v : Value} : p (.literal v) → Every p (.literal v)
  | path {segments : List String} : p (.path segments) → Every p (.path segments)
  | call {name : String} {args : List Expr} :
    p (.call name args) → (∀ e ∈ args, Every p e) → Every p (.call name args)
  | pipe {input : Expr} {name : String} {args : List Expr} :
    p (.pipe input name args) → Every p input → (∀ e ∈ args, Every p e) →
    Every p (.pipe input name args)

/-- An expression is a part of itself. -/
lemma Expr.Every.self {p : Expr → Prop} {e : Expr} (h : e.Every p) : p e := by
  cases h with
  | literal hp => exact hp
  | path hp => exact hp
  | call hp _ => exact hp
  | pipe hp _ _ => exact hp

section
variable (region : List Node → Prop) (expr : Expr → Prop)

/-- All regions inside a node are of one kind, and all expressions in its tags of another. -/
inductive Node.Every : Node → Prop
  | text {s : String} : Every (.text s)
  | interpolation {e : Expr} {raw : Bool} : expr e → Every (.interpolation e raw)
  | conditional {branches : List (Expr × List Node)} {fallback : Option (List Node)} :
    (∀ b ∈ branches, expr b.1) → (∀ b ∈ branches, region b.2) →
    (∀ b ∈ branches, ∀ n ∈ b.2, Every n) →
    (∀ ns ∈ fallback, region ns) → (∀ ns ∈ fallback, ∀ n ∈ ns, Every n) →
    Every (.conditional branches fallback)
  | loop {source : Expr} {item : String} {index : Option String} {body : List Node}
      {fallback : Option (List Node)} :
    expr source → region body → (∀ n ∈ body, Every n) →
    (∀ ns ∈ fallback, region ns) → (∀ ns ∈ fallback, ∀ n ∈ ns, Every n) →
    Every (.loop source item index body fallback)

/-- All regions of a template are of one kind, and all expressions in its tags of another. -/
def Template.Every (template : Template) : Prop :=
  region template.nodes ∧ ∀ n ∈ template.nodes, n.Every region expr

end

end Stencil

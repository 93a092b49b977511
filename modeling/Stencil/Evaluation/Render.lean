import Stencil.Evaluation.Evaluate
import Stencil.Text.Escaping

/-!
# Rendering

The output of a template is that of its nodes, one after another. Of a conditional only the body of
the first branch with a true condition is rendered, and no condition after it is evaluated. A loop
renders its body once for each item of an array, with the item and its index bound to their names.

Like evaluation, rendering leaves to a `Handler` what happens beside it. `Template.render` is
rendering with a trace.
-/

namespace Stencil

/-- The output of an interpolation. Arrays and objects have none and show a message. -/
def Value.shown (raw : Bool) : Value → String
  | .null => ""
  | .array _ => Fault.arrayInterpolation.message
  | .object _ => Fault.objectInterpolation.message
  | v => if raw then v.text else Text.escape v.text

namespace Handler

variable {m : Type → Type} [Monad m] (handler : Handler m) (registry : Registry)

mutual

/-- The output of a node. -/
def renderNode (scope : Scope) : Node → m String
  | .text s => pure s
  | .interpolation e raw => do
    let v ← handler.evaluate registry scope e
    pure (v.shown raw)
  | .conditional branches fallback => do
    match ← renderBranches scope branches with
    | some out => pure out
    | none => renderFallback scope fallback
  | .loop source item index body fallback => do
    match ← handler.evaluate registry scope source with
    | .array [] => renderFallback scope fallback
    | .array items => do
      let outs ← items.zipIdx.mapM fun p =>
        renderNodes (scope.push ⟨item, p.1, index.map fun name => (name, p.2)⟩) body
      pure (String.join outs)
    | _ => pure Fault.sourceNotArray.message

/-- The output of some nodes. -/
def renderNodes (scope : Scope) : List Node → m String
  | [] => pure ""
  | n :: ns => do
    let s ← renderNode scope n
    let t ← renderNodes scope ns
    pure (s ++ t)

/-- The output of the first branch with a true condition, if there is one. -/
def renderBranches (scope : Scope) : List (Expr × List Node) → m (Option String)
  | [] => pure none
  | (condition, body) :: rest => do
    let v ← handler.evaluate registry scope condition
    if v.isTruthy then some <$> renderNodes scope body
    else renderBranches scope rest

/-- The output of a fallback; a missing one has none. -/
def renderFallback (scope : Scope) : Option (List Node) → m String
  | none => pure ""
  | some ns => renderNodes scope ns

end

end Handler

section
variable (registry : Registry) (scope : Scope)

/-- The output of a node, with the host calls on the way to it. -/
def renderNode (n : Node) : Traced String :=
  Traced.handler.renderNode registry scope n

/-- The output of some nodes, with the host calls on the way to it. -/
def renderNodes (ns : List Node) : Traced String :=
  Traced.handler.renderNodes registry scope ns

/-- The output of the first branch with a true condition, with the host calls on the way to it. -/
def renderBranches (branches : List (Expr × List Node)) : Traced (Option String) :=
  Traced.handler.renderBranches registry scope branches

/-- The output of a fallback, with the host calls on the way to it. -/
def renderFallback (fallback : Option (List Node)) : Traced String :=
  Traced.handler.renderFallback registry scope fallback

/-- Text is its own output. -/
theorem renderNode_text (s : String) : renderNode registry scope (.text s) = pure s := by
  rw [renderNode, Handler.renderNode]

/-- An interpolation shows the value of its expression. -/
theorem renderNode_interpolation (e : Expr) (raw : Bool) :
    renderNode registry scope (.interpolation e raw) =
      evaluate registry scope e >>= fun v => pure (v.shown raw) := by
  rw [renderNode, Handler.renderNode]
  rfl

/-- A conditional has the output of the branch that is taken, and else that of the fallback. -/
theorem renderNode_conditional (branches : List (Expr × List Node))
    (fallback : Option (List Node)) :
    renderNode registry scope (.conditional branches fallback) =
      renderBranches registry scope branches >>= fun out =>
        match out with
        | some out => pure out
        | none => renderFallback registry scope fallback := by
  rw [renderNode, Handler.renderNode]
  rfl

/-- A loop has the outputs of its rounds one after another. -/
theorem renderNode_loop (source : Expr) (item : String) (index : Option String) (body : List Node)
    (fallback : Option (List Node)) :
    renderNode registry scope (.loop source item index body fallback) =
      evaluate registry scope source >>= fun v =>
        match v with
        | .array [] => renderFallback registry scope fallback
        | .array items =>
          Traced.concat <| items.zipIdx.map fun p =>
            renderNodes registry (scope.push ⟨item, p.1, index.map fun name => (name, p.2)⟩) body
        | _ => pure Fault.sourceNotArray.message := by
  rw [renderNode, Handler.renderNode]
  refine bind_congr fun v => ?_
  split
  · rfl
  · rw [← Traced.mapM_eq_concat]
    rfl
  · rfl

/-- Without nodes there is no output. -/
theorem renderNodes_nil : renderNodes registry scope [] = pure "" := by
  rw [renderNodes, Handler.renderNodes]

/-- The output of a node comes before that of the nodes behind it. -/
theorem renderNodes_cons (n : Node) (ns : List Node) :
    renderNodes registry scope (n :: ns) =
      renderNode registry scope n >>= fun s =>
        renderNodes registry scope ns >>= fun t => pure (s ++ t) := by
  rw [renderNodes, Handler.renderNodes]
  rfl

/-- Without branches none is taken. -/
theorem renderBranches_nil : renderBranches registry scope [] = pure none := by
  rw [renderBranches, Handler.renderBranches]

/-- A branch is taken if its condition counts as true, and else one behind it. -/
theorem renderBranches_cons (condition : Expr) (body : List Node) (rest : List (Expr × List Node)) :
    renderBranches registry scope ((condition, body) :: rest) =
      evaluate registry scope condition >>= fun v =>
        if v.isTruthy then some <$> renderNodes registry scope body
        else renderBranches registry scope rest := by
  rw [renderBranches, Handler.renderBranches]
  rfl

/-- A missing fallback has no output. -/
theorem renderFallback_none : renderFallback registry scope none = pure "" := by
  rw [renderFallback, Handler.renderFallback]

/-- A fallback has the output of its nodes. -/
theorem renderFallback_some (ns : List Node) :
    renderFallback registry scope (some ns) = renderNodes registry scope ns := by
  rw [renderFallback, Handler.renderFallback]
  rfl

end

/-- The output of a template for some data. -/
def Template.render (template : Template) (registry : Registry) (data : Fields Value) :
    Traced String :=
  renderNodes registry (.ofData data) template.nodes

end Stencil

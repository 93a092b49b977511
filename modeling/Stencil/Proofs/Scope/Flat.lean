import Mathlib.Tactic.Lemma
import Stencil.Evaluation.Render

/-!
# Scopes as flat maps

A scope keeps the bindings of the loops around in frames, innermost first. The plain account of the
same thing is one map from names to values that every round of a loop copies, first putting in the
item and then the index. `Flat.render` renders a template by that account: expressions see one map
and nothing else. Main statement: both accounts give every template the same output and the same
host calls, because `Scope.resolve` finds at every path what is found there in the map
`Scope.flatten`.

The relation carried through a render is `Scope.Shows`: a scope and a map agree on every name.
-/

namespace Stencil

namespace Flat

/-- The copy of a map for one round of a loop: the item is put in first, then the index. -/
def bind (names : Fields Value) (f : Frame) : Fields Value :=
  let bound := Fields.insert names f.item f.value
  match f.index with
  | none => bound
  | some (index, i) => Fields.insert bound index (.ofNat i)

/-- The value at a path from one map. -/
def resolve (names : Fields Value) : List String → Option Value
  | [] => none
  | name :: rest => (Fields.get? names name).bind fun v => v.follow? rest

mutual

/-- The value of an expression that sees one map. -/
def evaluate (registry : Registry) (names : Fields Value) : Expr → Traced Value
  | .literal v => pure v
  | .path segments => pure ((resolve names segments).getD .null)
  | .call name args => registry.call name (operands registry names args)
  | .pipe input name args =>
    registry.call name (evaluate registry names input :: operands registry names args)

/-- The values of some expressions as operands, by one map of names. -/
def operands (registry : Registry) (names : Fields Value) : List Expr → List (Traced Value)
  | [] => []
  | e :: es => evaluate registry names e :: operands registry names es

end

mutual

/-- The output of a node that sees one map. -/
def renderNode (registry : Registry) (names : Fields Value) : Node → Traced String
  | .text s => pure s
  | .interpolation e raw => Value.shown raw <$> evaluate registry names e
  | .conditional branches fallback =>
    renderBranches registry names branches (renderFallback registry names fallback)
  | .loop source item index body fallback => do
    match ← evaluate registry names source with
    | .array [] => renderFallback registry names fallback
    | .array items =>
      Traced.concat <| items.zipIdx.map fun p =>
        renderNodes registry (bind names ⟨item, p.1, index.map fun name => (name, p.2)⟩) body
    | _ => pure Fault.sourceNotArray.message

/-- The output of some nodes that see one map. -/
def renderNodes (registry : Registry) (names : Fields Value) : List Node → Traced String
  | [] => pure ""
  | n :: ns => do
    let s ← renderNode registry names n
    let t ← renderNodes registry names ns
    pure (s ++ t)

/-- The output of the first branch with a true condition, else `other`. -/
def renderBranches (registry : Registry) (names : Fields Value) :
    List (Expr × List Node) → Traced String → Traced String
  | [], other => other
  | (condition, body) :: rest, other => do
    let v ← evaluate registry names condition
    if v.isTruthy then renderNodes registry names body
    else renderBranches registry names rest other

/-- The output of a fallback, by one map of names. -/
def renderFallback (registry : Registry) (names : Fields Value) :
    Option (List Node) → Traced String
  | none => pure ""
  | some ns => renderNodes registry names ns

end

/-- The output of a template with one map for a scope. -/
def render (template : Template) (registry : Registry) (data : Fields Value) : Traced String :=
  renderNodes registry data template.nodes

end Flat

namespace Scope

/-- The map that shows what a scope shows: the data with the bindings of every loop put in, the
outermost loop first. -/
def flatten (scope : Scope) : Fields Value :=
  scope.frames.foldr (fun f names => Flat.bind names f) scope.data

/-- A scope and a map agree on every name. -/
def Shows (scope : Scope) (names : Fields Value) : Prop :=
  ∀ name, scope.lookup name = Fields.get? names name

end Scope

/-- A name that a frame binds is found in the copy, and the other names keep their values. -/
lemma Flat.get?_bind (names : Fields Value) (f : Frame) (name : String) :
    Fields.get? (bind names f) name = (f.get? name).or (Fields.get? names name) := by
  obtain ⟨item, value, index⟩ := f
  have hitem : Fields.get? (Fields.insert names item value) name =
      (if item = name then some value else none).or (Fields.get? names name) := by
    by_cases h : item = name
    · subst h
      simp
    · rw [Fields.get?_insert_of_ne _ _ (Ne.symm h), if_neg h, Option.none_or]
  cases index with
  | none => exact hitem
  | some p =>
    obtain ⟨index, i⟩ := p
    by_cases h : index = name
    · subst h
      simp [bind, Frame.get?]
    · simp only [bind, Frame.get?, if_neg h]
      rw [Fields.get?_insert_of_ne _ _ (Ne.symm h), hitem]

namespace Scope

/-- The scope of data shows what the data hold. -/
lemma shows_ofData (data : Fields Value) : (ofData data).Shows data :=
  fun _ => rfl

/-- Agreement is kept when a frame is pushed on one side and bound on the other. -/
lemma Shows.push {scope : Scope} {names : Fields Value} (h : scope.Shows names) (f : Frame) :
    (scope.push f).Shows (Flat.bind names f) := by
  intro name
  rw [lookup_push, Flat.get?_bind, h name]

/-- A scope shows what its flat map holds. -/
lemma shows_flatten (scope : Scope) : scope.Shows scope.flatten := by
  obtain ⟨frames, data⟩ := scope
  induction frames with
  | nil => exact shows_ofData data
  | cons f frames ih => exact ih.push f

/-- Where a scope and a map agree on names, they agree on paths. -/
lemma Shows.resolve_eq {scope : Scope} {names : Fields Value} (h : scope.Shows names)
    (path : List String) : scope.resolve path = Flat.resolve names path := by
  cases path with
  | nil => rfl
  | cons name rest => rw [Scope.resolve, Flat.resolve, h name]

end Scope

namespace Scope

variable {scope : Scope} {names : Fields Value}

mutual

/-- Where a scope and a map agree, an expression has one value and makes the same host calls. -/
theorem Shows.evaluate_eq (registry : Registry) (h : scope.Shows names) (e : Expr) :
    evaluate registry scope e = Flat.evaluate registry names e := by
  cases e with
  | literal v => rw [evaluate_literal, Flat.evaluate]
  | path segments => rw [evaluate_path, Flat.evaluate, h.resolve_eq]
  | call name args => rw [evaluate_call, Flat.evaluate, h.operands_eq registry args]
  | pipe input name args =>
    rw [evaluate_pipe, Flat.evaluate, h.evaluate_eq registry input, h.operands_eq registry args]

/-- Expressions have the same values as operands by the scope and by the map. -/
theorem Shows.operands_eq (registry : Registry) (h : scope.Shows names) (es : List Expr) :
    operands registry scope es = Flat.operands registry names es := by
  cases es with
  | nil => rw [operands_nil, Flat.operands]
  | cons e es =>
    rw [operands_cons, Flat.operands, h.evaluate_eq registry e, h.operands_eq registry es]

end

mutual

/-- Where a scope and a map agree, a node has one output and makes the same host calls. -/
theorem renderNode_eq (registry : Registry) {scope : Scope} {names : Fields Value}
    (h : scope.Shows names) (n : Node) :
    renderNode registry scope n = Flat.renderNode registry names n := by
  cases n with
  | text s => rw [renderNode_text, Flat.renderNode]
  | interpolation e raw =>
    rw [renderNode_interpolation, Flat.renderNode, h.evaluate_eq registry e]
    rfl
  | conditional branches fallback =>
    rw [renderNode_conditional, Flat.renderNode, renderFallback_eq registry h fallback]
    exact renderBranches_eq registry h branches (Flat.renderFallback registry names fallback)
  | loop source item index body fallback =>
    -- the agreement is used at the frame of every round, so the body is rendered alike in each
    have hbody (p : Value × Nat) :
        renderNodes registry (scope.push ⟨item, p.1, index.map fun name => (name, p.2)⟩) body =
          Flat.renderNodes registry
            (Flat.bind names ⟨item, p.1, index.map fun name => (name, p.2)⟩) body :=
      renderNodes_eq registry (h.push _) body
    rw [renderNode_loop, Flat.renderNode, h.evaluate_eq registry source]
    refine bind_congr fun v => ?_
    cases v with
    | array items =>
      cases items with
      | nil => exact renderFallback_eq registry h fallback
      | cons first items =>
        exact congrArg (fun f => Traced.concat ((first :: items).zipIdx.map f)) (funext hbody)
    | _ => rfl

/-- Nodes render alike by the scope and by the map. -/
theorem renderNodes_eq (registry : Registry) {scope : Scope} {names : Fields Value}
    (h : scope.Shows names) (ns : List Node) :
    renderNodes registry scope ns = Flat.renderNodes registry names ns := by
  cases ns with
  | nil => rw [renderNodes_nil, Flat.renderNodes]
  | cons n ns =>
    rw [renderNodes_cons, Flat.renderNodes, renderNode_eq registry h n,
      renderNodes_eq registry h ns]

/-- Where a scope and a map agree, they choose the same branch, or none and the same fallback. -/
theorem renderBranches_eq (registry : Registry) {scope : Scope} {names : Fields Value}
    (h : scope.Shows names) (branches : List (Expr × List Node)) (other : Traced String) :
    (do
      match ← renderBranches registry scope branches with
      | some out => pure out
      | none => other) = Flat.renderBranches registry names branches other := by
  cases branches with
  | nil => rw [renderBranches_nil, Flat.renderBranches, pure_bind]
  | cons branch rest =>
    obtain ⟨condition, body⟩ := branch
    rw [renderBranches_cons, Flat.renderBranches, h.evaluate_eq registry condition, bind_assoc]
    congr 1
    funext v
    cases v.isTruthy with
    | true => simp [renderNodes_eq registry h body]
    | false => exact renderBranches_eq registry h rest other

/-- A fallback renders alike by the scope and by the map. -/
theorem renderFallback_eq (registry : Registry) {scope : Scope} {names : Fields Value}
    (h : scope.Shows names) (fallback : Option (List Node)) :
    renderFallback registry scope fallback = Flat.renderFallback registry names fallback := by
  cases fallback with
  | none => rw [renderFallback_none, Flat.renderFallback]
  | some ns => rw [renderFallback_some, Flat.renderFallback, renderNodes_eq registry h ns]

end

end Scope

/-- Scopes are flat maps: every render by the one is a render by the other, with the same output and
the same host calls, and under any frames a path leads where it leads in the map with their bindings
put in. -/
theorem Flat.render_eq_and_resolve_eq :
    (∀ (template : Template) (registry : Registry) (data : Fields Value),
      template.render registry data = Flat.render template registry data) ∧
    (∀ (frames : List Frame) (data : Fields Value) (path : List String),
      Scope.resolve ⟨frames, data⟩ path =
        Flat.resolve (frames.foldr (fun f names => Flat.bind names f) data) path) := by
  refine ⟨?_, ?_⟩
  · intro template registry data
    exact Scope.renderNodes_eq registry (Scope.shows_ofData data) template.nodes
  · intro frames data path
    exact (Scope.shows_flatten ⟨frames, data⟩).resolve_eq path

end Stencil

import Stencil.Evaluation.Render
import Stencil.Proofs.Checking.Calls
import Stencil.Proofs.Evaluation.Related

/-!
# Related renders

Two renders of one template may differ in their handlers and in their scopes. If paths lead to
related values, and the handlers do related things where evaluation leaves something to them
(`Handler.Related`), then every expression has related values (`Handler.evaluate_related`) and every
node has one output (`Handler.renderNode_related`), in the sense of a `Lifting`.

This is the only walk through expressions and nodes that compares two renders of the same tree. It
serves renders that stop at a call that cannot be made, and renders of data that differ in the signs
of zeros.
-/

namespace Stencil

/-- A call cannot be made: there is no function of its name, or it is short of operands. -/
inductive Registry.Refuses (registry : Registry) (c : Call) : Fault → Prop
  | unknown : registry.get? c.name = none → Refuses registry c (.unknownFunction c.name)
  | short {b : Builtin} : registry.get? c.name = some (.builtin b) → c.supplied < b.minArgs →
    Refuses registry c (.tooFewArguments c.name b.minArgs)

/-- A function is run on operands: what evaluating them does is left to a built-in, and a function
of the host is called with all their values. -/
def Function.result (name : String) (args : List (Traced Value)) : Function → Traced Value
  | builtin b => b.run args
  | host run =>
    ⟨run (args.map Traced.value), args.flatMap Traced.calls ++ [⟨name, args.map Traced.value⟩]⟩

section
variable {registry : Registry} {scope : Scope} {c : Call} {fault : Fault}

/-- A call that cannot be made is left to the handler, and none of its operands is evaluated. -/
lemma Handler.call_of_refuses {m : Type → Type} [Monad m] {handler : Handler m}
    (h : registry.Refuses c fault) {args : List (m Value)} (hargs : args.length = c.supplied) :
    handler.call registry c args = handler.refuse c fault := by
  rw [Handler.call, Registry.callWith]
  cases h with
  | unknown hget => rw [hget]
  | short hget hshort =>
    rw [hget]
    exact if_pos (hargs ▸ hshort)

/-- The value of a call that cannot be made is left to the handler. -/
lemma Handler.evaluate_of_refuses {m : Type → Type} [Monad m] {handler : Handler m}
    (h : registry.Refuses c fault) :
    handler.evaluate registry scope c.expr = handler.refuse c fault := by
  rw [Handler.evaluate_expr]
  exact Handler.call_of_refuses h (by rw [List.length_map, c.length_operands])

/-- A call that can be made runs its function on its operands. -/
lemma evaluate_of_not_refuses (h : ∀ fault, ¬registry.Refuses c fault) :
    ∃ f, registry.get? c.name = some f ∧ evaluate registry scope c.expr =
      f.result c.name (c.operands.map (evaluate registry scope)) := by
  cases hget : registry.get? c.name with
  | none => exact absurd (.unknown hget) (h _)
  | some f =>
    refine ⟨f, rfl, ?_⟩
    rw [evaluate_expr, Registry.call_eq, hget]
    cases f with
    | builtin b =>
      have henough : ¬(c.operands.map (evaluate registry scope)).length < b.minArgs := by
        rw [List.length_map, c.length_operands]
        exact fun hshort => h _ (.short hget hshort)
      exact if_neg henough
    | host run =>
      refine Traced.ext ?_ ?_
      · simp [Function.result]
      · simp [Function.result]

end

/-- Two handlers and two kinds of scopes that templates do not tell apart. Values are related if
nothing that is asked of them differs; paths lead to related values, before and inside of loops; and
the handlers do related things, with calls of the host and with those calls that cannot be made. -/
structure Handler.Related {m n : Type → Type} [Monad m] [Monad n] (L : Lifting m n)
    (registry : Registry) (met : Call → Prop) (h : Handler m) (k : Handler n)
    (R : Value → Value → Prop) (S : Scope → Scope → Prop) : Prop where
  values : Value.Congruence R
  shown_eq {v w : Value} : R v w → ∀ raw, v.shown raw = w.shown raw
  resolve {s t : Scope} : S s t → ∀ segments,
    R ((s.resolve segments).getD .null) ((t.resolve segments).getD .null)
  push {s t : Scope} {v w : Value} : S s t → R v w → ∀ item index,
    S (s.push ⟨item, v, index⟩) (t.push ⟨item, w, index⟩)
  refuse {c : Call} {fault : Fault} : met c → registry.Refuses c fault →
    L.Rel R (h.refuse c fault) (k.refuse c fault)
  host {name : String} {run : List Value → Value} {vs ws : List Value} :
    registry.get? name = some (.host run) → List.Forall₂ R vs ws →
    L.Rel R (h.record ⟨name, vs⟩ >>= fun _ => pure (run vs))
      (k.record ⟨name, ws⟩ >>= fun _ => pure (run ws))

/-- Steps that are related one by one are related when they are taken in turn. -/
lemma Lifting.mapM {m n : Type → Type} [Monad m] [Monad n] [LawfulMonad m] [LawfulMonad n]
    (L : Lifting m n) {α β γ δ : Type} {R : γ → δ → Prop} {f : α → m γ} {g : β → n δ}
    {as : List α} {bs : List β} (h : List.Forall₂ (fun a b => L.Rel R (f a) (g b)) as bs) :
    L.Rel (List.Forall₂ R) (as.mapM f) (bs.mapM g) := by
  induction h with
  | nil =>
    rw [List.mapM_nil, List.mapM_nil]
    exact L.pure .nil
  | cons hab _ ih =>
    rw [List.mapM_cons, List.mapM_cons]
    exact L.bind hab fun c d hcd => L.bind ih fun cs ds hcds => L.pure (.cons hcd hcds)

/-- Items that are related are so with their indices. -/
lemma forall₂_zipIdx {α β : Type} {R : α → β → Prop} {xs : List α} {ys : List β}
    (h : List.Forall₂ R xs ys) (i : Nat) :
    List.Forall₂ (fun p q => R p.1 q.1 ∧ p.2 = q.2) (xs.zipIdx i) (ys.zipIdx i) := by
  induction h generalizing i with
  | nil => exact .nil
  | cons hx _ ih => exact .cons ⟨hx, rfl⟩ (ih (i + 1))

namespace Handler

variable {m n : Type → Type} [Monad m] [Monad n] {L : Lifting m n} {registry : Registry}
  {met : Call → Prop} {h : Handler m} {k : Handler n}
  {R : Value → Value → Prop} {S : Scope → Scope → Prop}

/-- A call with related operands has related results. -/
lemma call_related [LawfulMonad m] [LawfulMonad n]
    (hrel : Related L registry met h k R S) {c : Call} (hmet : met c) {xs : List (m Value)}
    {ys : List (n Value)} (hlength : ys.length = c.supplied)
    (hargs : List.Forall₂ (L.Rel R) xs ys) :
    L.Rel R (h.call registry c xs) (k.call registry c ys) := by
  by_cases hrefused : ∃ fault, registry.Refuses c fault
  · obtain ⟨fault, hfault⟩ := hrefused
    rw [call_of_refuses hfault (hargs.length_eq.trans hlength), call_of_refuses hfault hlength]
    exact hrel.refuse hmet hfault
  · rw [call, call, Registry.callWith, Registry.callWith]
    cases hget : registry.get? c.name with
    | none => exact absurd ⟨_, .unknown hget⟩ hrefused
    | some f =>
      cases f with
      | builtin b =>
        have henough : ¬ys.length < b.minArgs := by
          rw [hlength]
          exact fun hshort => hrefused ⟨_, .short hget hshort⟩
        dsimp only
        rw [hargs.length_eq, if_neg henough, if_neg henough]
        exact b.run_related L hrel.values hargs
      | host run => exact L.bind (L.mapM hargs) fun vs ws => hrel.host hget

mutual

/-- In related scopes an expression has related values. -/
theorem evaluate_related [LawfulMonad m] [LawfulMonad n]
    (hrel : Related L registry met h k R S) {s t : Scope} (hst : S s t) (e : Expr)
    (hmet : ∀ c ∈ e.calls, met c) :
    L.Rel R (h.evaluate registry s e) (k.evaluate registry t e) := by
  cases e with
  | literal v =>
    rw [evaluate, evaluate]
    exact L.pure (hrel.values.refl v)
  | path segments =>
    rw [evaluate, evaluate]
    exact L.pure (hrel.resolve hst segments)
  | call name args =>
    obtain ⟨hcall, hargs⟩ := List.forall_mem_cons.mp hmet
    rw [evaluate, evaluate]
    refine call_related hrel hcall ?_ (operands_related hrel hst args hargs)
    rw [operands_eq_map, List.length_map]
    rfl
  | pipe input name args =>
    obtain ⟨hinput, hcalls⟩ := List.forall_mem_append.mp hmet
    obtain ⟨hcall, hargs⟩ := List.forall_mem_cons.mp hcalls
    rw [evaluate, evaluate]
    refine call_related hrel hcall ?_
      (.cons (evaluate_related hrel hst input hinput) (operands_related hrel hst args hargs))
    rw [operands_eq_map, List.length_cons, List.length_map]
    rfl

/-- In related scopes operands have related values. -/
theorem operands_related [LawfulMonad m] [LawfulMonad n]
    (hrel : Related L registry met h k R S) {s t : Scope} (hst : S s t) (es : List Expr)
    (hmet : ∀ c ∈ callsOf es, met c) :
    List.Forall₂ (L.Rel R) (h.operands registry s es) (k.operands registry t es) := by
  cases es with
  | nil =>
    rw [operands, operands]
    exact .nil
  | cons e es =>
    obtain ⟨he, hes⟩ := List.forall_mem_append.mp hmet
    rw [operands, operands]
    exact .cons (evaluate_related hrel hst e he) (operands_related hrel hst es hes)

end

/-- Loops over related sources have one output if their rounds and their fallbacks do. -/
lemma loop_related [LawfulMonad m] [LawfulMonad n] (hR : Value.Congruence R) {s t : Scope}
    {source : Expr} {item : String} {index : Option String} {body : List Node}
    {fallback : Option (List Node)}
    (hsource : L.Rel R (h.evaluate registry s source) (k.evaluate registry t source))
    (hround : ∀ v w i, R v w →
      L.Rel Eq
        (h.renderNodes registry (s.push ⟨item, v, index.map fun name => (name, i)⟩) body)
        (k.renderNodes registry (t.push ⟨item, w, index.map fun name => (name, i)⟩) body))
    (hfallback : L.Rel Eq (h.renderFallback registry s fallback)
      (k.renderFallback registry t fallback)) :
    L.Rel Eq (h.renderNode registry s (.loop source item index body fallback))
      (k.renderNode registry t (.loop source item index body fallback)) := by
  rw [renderNode, renderNode]
  refine L.bind hsource fun v w hvw => ?_
  obtain ⟨xs, ys, rfl, rfl, hitems⟩ | ⟨hv, hw⟩ := hR.items hvw
  · have hindexed := forall₂_zipIdx hitems 0
    cases hitems with
    | nil => exact hfallback
    | cons _ _ =>
      refine L.bind (R := List.Forall₂ Eq) (L.mapM (hindexed.imp fun p q hpq => ?_))
        fun outs outs' houts => ?_
      · rw [← hpq.2]
        exact hround p.1 q.1 p.2 hpq.1
      · rw [List.forall₂_eq_eq_eq] at houts
        exact L.pure (congrArg String.join houts)
  · -- neither value is an array, so both loops say so
    split
    · exact absurd rfl (hv _)
    · exact absurd rfl (hv _)
    · split
      · exact absurd rfl (hw _)
      · exact absurd rfl (hw _)
      · exact L.pure rfl

mutual

/-- In related scopes a node has one output. -/
theorem renderNode_related [LawfulMonad m] [LawfulMonad n]
    (hrel : Related L registry met h k R S) {s t : Scope} (hst : S s t) (node : Node)
    (hmet : ∀ o ∈ nodeCalls node, met o.call) :
    L.Rel Eq (h.renderNode registry s node) (k.renderNode registry t node) := by
  cases node with
  | text text =>
    rw [renderNode, renderNode]
    exact L.pure rfl
  | interpolation e raw =>
    rw [renderNode, renderNode]
    refine L.bind (evaluate_related hrel hst e (forall_callsHere.mp hmet)) ?_
    exact fun v w hvw => L.pure (hrel.shown_eq hvw raw)
  | conditional branches fallback =>
    obtain ⟨hbranches, hfallback⟩ := List.forall_mem_append.mp hmet
    rw [renderNode, renderNode]
    refine L.bind (renderBranches_related hrel hst 0 branches hbranches) ?_
    rintro chosen _ rfl
    cases chosen with
    | some out => exact L.pure rfl
    | none => exact renderFallback_related hrel hst fallback hfallback
  | loop source item index body fallback =>
    obtain ⟨hmet, hfallback⟩ := List.forall_mem_append.mp hmet
    obtain ⟨hsource, hbody⟩ := List.forall_mem_append.mp hmet
    refine loop_related hrel.values
      (evaluate_related hrel hst source (forall_callsHere.mp hsource)) (fun v w i hvw => ?_)
      (renderFallback_related hrel hst fallback hfallback)
    exact renderNodes_related hrel
      (hrel.push hst hvw item (index.map fun name => (name, i))) 0 body
      (forall_map_under.mp hbody)

/-- In related scopes nodes have one output. -/
theorem renderNodes_related [LawfulMonad m] [LawfulMonad n]
    (hrel : Related L registry met h k R S) {s t : Scope} (hst : S s t) (i : Nat)
    (nodes : List Node) (hmet : ∀ o ∈ nodesCalls i nodes, met o.call) :
    L.Rel Eq (h.renderNodes registry s nodes) (k.renderNodes registry t nodes) := by
  cases nodes with
  | nil =>
    rw [renderNodes, renderNodes]
    exact L.pure rfl
  | cons node nodes =>
    obtain ⟨hnode, hnodes⟩ := List.forall_mem_append.mp hmet
    rw [renderNodes, renderNodes]
    refine L.bind (renderNode_related hrel hst node (forall_map_under.mp hnode)) fun a b hab => ?_
    refine L.bind (renderNodes_related hrel hst (i + 1) nodes hnodes) fun c d hcd => L.pure ?_
    rw [hab, hcd]

/-- In related scopes the same branch is taken, with one output. -/
theorem renderBranches_related [LawfulMonad m] [LawfulMonad n]
    (hrel : Related L registry met h k R S) {s t : Scope} (hst : S s t) (i : Nat)
    (branches : List (Expr × List Node)) (hmet : ∀ o ∈ branchCalls i branches, met o.call) :
    L.Rel Eq (h.renderBranches registry s branches) (k.renderBranches registry t branches) := by
  cases branches with
  | nil =>
    rw [renderBranches, renderBranches]
    exact L.pure rfl
  | cons branch rest =>
    obtain ⟨condition, body⟩ := branch
    obtain ⟨hbranch, hrest⟩ := List.forall_mem_append.mp hmet
    obtain ⟨hcondition, hbody⟩ := List.forall_mem_append.mp (forall_map_under.mp hbranch)
    rw [renderBranches, renderBranches]
    refine L.bind (evaluate_related hrel hst condition (forall_callsHere.mp hcondition))
      fun v w hvw => ?_
    rw [hrel.values.isTruthy_eq hvw]
    cases w.isTruthy with
    | true =>
      exact L.map (renderNodes_related hrel hst 0 body hbody) fun a b hab => congrArg some hab
    | false => exact renderBranches_related hrel hst (i + 1) rest hrest

/-- In related scopes a fallback has one output. -/
theorem renderFallback_related [LawfulMonad m] [LawfulMonad n]
    (hrel : Related L registry met h k R S) {s t : Scope} (hst : S s t)
    (fallback : Option (List Node)) (hmet : ∀ o ∈ fallbackCalls fallback, met o.call) :
    L.Rel Eq (h.renderFallback registry s fallback) (k.renderFallback registry t fallback) := by
  cases fallback with
  | none =>
    rw [renderFallback, renderFallback]
    exact L.pure rfl
  | some nodes =>
    rw [renderFallback, renderFallback]
    exact renderNodes_related hrel hst 0 nodes (forall_map_under.mp hmet)

end

end Handler

end Stencil

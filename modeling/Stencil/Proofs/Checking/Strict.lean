import Stencil.Proofs.Rendering.Related

/-!
# Strict evaluation

A render never stops: the value of a call that cannot be made is a message. Strict evaluation is
evaluation with another handler, which stops at the first such call and tells which one it was. It
follows plain evaluation, with the same values and the same host calls in the same order, up to the
point where it stops (`Strict.handler_related`).
-/

namespace Stencil

/-- A call that cannot be made, and why. -/
structure Refusal where
  call : Call
  fault : Fault

/-- Results with their host calls, up to a refusal that stops everything. -/
abbrev Strict : Type → Type :=
  ExceptT Refusal Traced

/-- Stops at a call. -/
def refuse {α : Type} (call : Call) (fault : Fault) : Strict α :=
  throw ⟨call, fault⟩

/-- Host calls go into the trace, and a call that cannot be made stops everything. -/
def Strict.handler : Handler Strict where
  record call := liftM (Traced.record call)
  refuse := refuse

/-- The output of a template for some data, unless a call on the way to it cannot be made. -/
def Template.strictRender (template : Template) (registry : Registry) (data : Fields Value) :
    Strict String :=
  Strict.handler.renderNodes registry (.ofData data) template.nodes

namespace Strict

variable {α : Type} {P : Refusal → Prop}

/-- A plain result has its value and its host calls. -/
lemma run_lift (y : Traced α) : (liftM y : Strict α).run = ⟨.ok y.value, y.calls⟩ :=
  Traced.ext rfl (Traced.calls_map Except.ok y)

/-- Strict results and plain ones with related values and the same host calls; or the strict one
stopped at a refusal in `P`. -/
def lifting (P : Refusal → Prop) : Lifting Strict Traced where
  Rel R x y := (∃ a, R a y.value ∧ x.run = ⟨.ok a, y.calls⟩) ∨ ∃ r, x.run.value = .error r ∧ P r
  pure h := .inl ⟨_, h, rfl⟩
  bind {_ _ _ _ R S x y f g} h hfg := by
    obtain ⟨a, ha, hx⟩ | ⟨r, hr, hp⟩ := h
    · -- the first step has a value, so the second one decides
      have hrun : (x >>= f).run = ⟨(f a).run.value, y.calls ++ (f a).run.calls⟩ := by
        rw [ExceptT.run_bind, hx]
        rfl
      obtain ⟨b, hb, hf⟩ | ⟨r, hr, hp⟩ := hfg a y.value ha
      · exact .inl ⟨b, hb, by rw [hrun, hf, Traced.calls_bind]⟩
      · exact .inr ⟨r, by rw [hrun, hr], hp⟩
    · exact .inr ⟨r, by rw [ExceptT.run_bind, Traced.value_bind, hr, Traced.value_pure], hp⟩

/-- What follows without any refusal is the same. -/
lemma eq_lift {x : Strict α} {y : Traced α} (h : (lifting P).Rel Eq x y) (hP : ∀ r, ¬P r) :
    x = liftM y := by
  obtain ⟨a, rfl, hx⟩ | ⟨r, _, hp⟩ := h
  · apply ExceptT.ext
    rw [hx, run_lift]
  · exact absurd hp (hP r)

/-- Strict evaluation follows evaluation up to a call that cannot be made. -/
lemma handler_related (registry : Registry) (met : Call → Prop) :
    Handler.Related (lifting fun r => met r.call ∧ registry.Refuses r.call r.fault) registry met
      handler Traced.handler Eq Eq where
  values := Value.congruence_eq
  shown_eq h _ := h ▸ rfl
  resolve h _ := h ▸ rfl
  push h hvw _ _ := h ▸ hvw ▸ rfl
  refuse hmet hrefuses := .inr ⟨_, rfl, hmet, hrefuses⟩
  host {name run vs ws} _ h := by
    rw [List.forall₂_eq_eq_eq] at h
    subst h
    exact (lifting _).bind (.inl ⟨(), rfl, run_lift (Traced.record ⟨name, vs⟩)⟩) fun _ _ _ =>
      (lifting _).pure rfl

/-- Evaluation stops at a call exactly for the reason for which it cannot be made. -/
lemma evaluate_eq_refuse_iff {registry : Registry} {scope : Scope} {c : Call} {fault : Fault} :
    handler.evaluate registry scope c.expr = refuse c fault ↔ registry.Refuses c fault := by
  constructor
  · intro h
    have hfollows := Handler.evaluate_related (handler_related registry fun _ => True)
      (rfl : scope = scope) c.expr fun _ _ => trivial
    rw [h] at hfollows
    obtain ⟨a, _, hvalue⟩ | ⟨r, hr, _, hrefuses⟩ := hfollows
    · -- a plain result has a value, a refusal has none
      cases congrArg Traced.value hvalue
    · cases hr
      exact hrefuses
  · exact Handler.evaluate_of_refuses

end Strict

end Stencil

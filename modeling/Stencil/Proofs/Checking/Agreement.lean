import Stencil.Proofs.Checking.Strict

/-!
# The check agrees with evaluation

The check walks over a template without any data, evaluation meets its calls in whatever order the
data lead to. Main statement: a call is listed as unknown or as short of arguments if and only if it
cannot be made for that reason, whatever the scope; evaluation then gives the message, and runs the
function of every other call. A template without such problems is rendered without any refusal, so
strict rendering is then plain rendering.

Both halves meet in `Registry.Refuses`, what evaluation asks of a call and the registry: the check
asks the same (`unknownFunction_mem_check_iff`, `tooFewArguments_mem_check_iff`).
-/

namespace Stencil

section
variable {template : Template} {registry : Registry} {scope : Scope} {c : Call} {o : Occurrence}

/-- A call that cannot be made has a flaw. -/
lemma Registry.Refuses.exists_flaw {fault : Fault} (h : registry.Refuses c fault) :
    ∃ flaw, flaw ∈ registry.flaws c.name c.supplied := by
  cases h with
  | unknown hget => exact ⟨_, unknownFunction_mem_flaws.mpr ⟨rfl, hget⟩⟩
  | short hget hshort =>
    exact ⟨_, tooFewArguments_mem_flaws.mpr ⟨rfl, rfl, _, hget, rfl, hshort⟩⟩

/-- A call cannot be made for want of a function exactly if there is none of its name. -/
lemma refuses_unknownFunction_iff :
    registry.Refuses c (.unknownFunction c.name) ↔ registry.get? c.name = none := by
  constructor
  · intro h
    cases h with
    | unknown hget => exact hget
  · exact .unknown

/-- A call cannot be made for want of operands exactly if its name is that of a built-in that needs
more. -/
lemma refuses_tooFewArguments_iff {needed : Nat} :
    registry.Refuses c (.tooFewArguments c.name needed) ↔
      ∃ b, registry.get? c.name = some (.builtin b) ∧ needed = b.minArgs ∧
        c.supplied < b.minArgs := by
  constructor
  · intro h
    cases h with
    | short hget hshort => exact ⟨_, hget, rfl, hshort⟩
  · rintro ⟨b, hget, rfl, hshort⟩
    exact .short hget hshort

/-- The problems about calls are the flaws of the calls at their places. -/
lemma mem_check_iff {path : List Step} {flaw : Flaw} (h : flaw.ofCall = true) :
    ⟨path, flaw⟩ ∈ template.check registry ↔
      ∃ o ∈ template.calls, o.path = path ∧ flaw ∈ registry.flaws o.call.name o.call.supplied := by
  have hmem : ⟨path, flaw⟩ ∈ template.check registry ↔
      ⟨path, flaw⟩ ∈ callProblems (template.check registry) := by
    simp [callProblems, h]
  rw [hmem, Template.check, checkNodes_calls, List.mem_flatMap]
  refine exists_congr fun o => and_congr_right fun _ => ?_
  simp [Occurrence.problems, and_comm]

/-- A call is listed as unknown exactly if it cannot be made for want of a function. -/
lemma unknownFunction_mem_check_iff (ho : o ∈ template.calls) :
    ⟨o.path, .unknownFunction o.call.name⟩ ∈ template.check registry ↔
      registry.Refuses o.call (.unknownFunction o.call.name) := by
  rw [mem_check_iff rfl, refuses_unknownFunction_iff]
  constructor
  · rintro ⟨other, _, _, hflaw⟩
    obtain ⟨hname, hget⟩ := unknownFunction_mem_flaws.mp hflaw
    rwa [hname]
  · intro hget
    exact ⟨o, ho, rfl, unknownFunction_mem_flaws.mpr ⟨rfl, hget⟩⟩

/-- A call is listed as short of arguments exactly if it cannot be made for want of operands. -/
lemma tooFewArguments_mem_check_iff {needed : Nat} (ho : o ∈ template.calls) :
    ⟨o.path, .tooFewArguments o.call.name needed o.call.supplied⟩ ∈ template.check registry ↔
      registry.Refuses o.call (.tooFewArguments o.call.name needed) := by
  rw [mem_check_iff rfl, refuses_tooFewArguments_iff]
  constructor
  · rintro ⟨other, _, _, hflaw⟩
    obtain ⟨hname, hcount, hneeded⟩ := tooFewArguments_mem_flaws.mp hflaw
    rwa [hname, hcount]
  · intro hneeded
    exact ⟨o, ho, rfl, tooFewArguments_mem_flaws.mpr ⟨rfl, rfl, hneeded⟩⟩

/-- A call that is not listed can be made. -/
lemma not_refuses_of_not_mem_check (ho : o ∈ template.calls)
    (hunknown : ⟨o.path, .unknownFunction o.call.name⟩ ∉ template.check registry)
    (hshort : ∀ needed,
      ⟨o.path, .tooFewArguments o.call.name needed o.call.supplied⟩ ∉ template.check registry)
    (fault : Fault) : ¬registry.Refuses o.call fault := by
  intro h
  cases h with
  | unknown hget => exact hunknown ((unknownFunction_mem_check_iff ho).mpr (.unknown hget))
  | short hget hfew =>
    exact hshort _ ((tooFewArguments_mem_check_iff ho).mpr (.short hget hfew))

/-- The flaws about a call are those with one of two codes. -/
lemma ofCall_iff_code (flaw : Flaw) :
    flaw.ofCall = true ↔ flaw.code = "unknown-function" ∨ flaw.code = "too-few-args" := by
  cases flaw with
  | malformedTag text => simp [Flaw.ofCall, Flaw.code]
  | emptyBinding => simp [Flaw.ofCall, Flaw.code]
  | unknownFunction name => simp [Flaw.ofCall, Flaw.code]
  | tooFewArguments name needed supplied => simp [Flaw.ofCall, Flaw.code]

/-- A template in which the check finds no problem about a call is rendered without any refusal. -/
lemma strictRender_eq_lift (h : ∀ p ∈ template.check registry, p.flaw.ofCall = false)
    (data : Fields Value) :
    template.strictRender registry data = liftM (template.render registry data) := by
  have hfollows := Handler.renderNodes_related
    (Strict.handler_related registry (· ∈ template.calls.map Occurrence.call))
    (rfl : Scope.ofData data = .ofData data) 0 template.nodes
    fun o ho => List.mem_map_of_mem ho
  refine Strict.eq_lift hfollows ?_
  rintro r ⟨hcall, hrefuses⟩
  obtain ⟨o, ho, hr⟩ := List.mem_map.mp hcall
  obtain ⟨flaw, hflaw⟩ := hrefuses.exists_flaw
  rw [← hr] at hflaw
  have hlisted := (mem_check_iff (ofCall_of_mem_flaws hflaw)).mpr ⟨o, ho, rfl, hflaw⟩
  have hno := h _ hlisted
  rw [ofCall_of_mem_flaws hflaw] at hno
  cases hno

end

/-- What the check of a template lists of a call at its place is what evaluation makes of the call
in a scope. It is listed as unknown, or as short of arguments, if and only if strict evaluation is
refused there for that reason. Then its value is the message, without a host call. If it is not
listed, its function is run on its operands. -/
structure Occurrence.Agrees (template : Template) (registry : Registry) (scope : Scope)
    (o : Occurrence) : Prop where
  unknown_iff :
    ⟨o.path, .unknownFunction o.call.name⟩ ∈ template.check registry ↔
      Strict.handler.evaluate registry scope o.call.expr =
        refuse o.call (.unknownFunction o.call.name)
  short_iff needed :
    ⟨o.path, .tooFewArguments o.call.name needed o.call.supplied⟩ ∈ template.check registry ↔
      Strict.handler.evaluate registry scope o.call.expr =
        refuse o.call (.tooFewArguments o.call.name needed)
  unknown_value :
    ⟨o.path, .unknownFunction o.call.name⟩ ∈ template.check registry →
      evaluate registry scope o.call.expr =
        pure (.string (Fault.unknownFunction o.call.name).message)
  short_value needed :
    ⟨o.path, .tooFewArguments o.call.name needed o.call.supplied⟩ ∈ template.check registry →
      evaluate registry scope o.call.expr =
        pure (.string (Fault.tooFewArguments o.call.name needed).message)
  runs :
    ⟨o.path, .unknownFunction o.call.name⟩ ∉ template.check registry →
    (∀ needed,
      ⟨o.path, .tooFewArguments o.call.name needed o.call.supplied⟩ ∉ template.check registry) →
      ∃ f, registry.get? o.call.name = some f ∧
        evaluate registry scope o.call.expr =
          f.result o.call.name (o.call.operands.map (evaluate registry scope))

/-- The check agrees with evaluation at every call of a template. -/
lemma agrees_of_mem_calls {template : Template} (registry : Registry) (scope : Scope)
    {o : Occurrence} (ho : o ∈ template.calls) : o.Agrees template registry scope where
  unknown_iff := by
    rw [unknownFunction_mem_check_iff ho, Strict.evaluate_eq_refuse_iff]
  short_iff needed := by
    rw [tooFewArguments_mem_check_iff ho, Strict.evaluate_eq_refuse_iff]
  unknown_value h := Handler.evaluate_of_refuses ((unknownFunction_mem_check_iff ho).mp h)
  short_value _ h := Handler.evaluate_of_refuses ((tooFewArguments_mem_check_iff ho).mp h)
  runs hunknown hshort :=
    evaluate_of_not_refuses (not_refuses_of_not_mem_check ho hunknown hshort)

/-- The check agrees with evaluation. At every call of a template, whatever the scope, what is
listed is what evaluation makes of it; every problem with one of the two codes is about a call at
its place; and without such problems no call is ever refused, so that strict rendering has the
output and the host calls of rendering. -/
theorem check_iff_refused (template : Template) (registry : Registry) :
    (∀ o ∈ template.calls, ∀ scope, o.Agrees template registry scope) ∧
    (∀ p ∈ template.check registry,
      p.flaw.code = "unknown-function" ∨ p.flaw.code = "too-few-args" →
        ∃ o ∈ template.calls, o.path = p.path ∧
          (p.flaw = .unknownFunction o.call.name ∨
            ∃ needed, p.flaw = .tooFewArguments o.call.name needed o.call.supplied)) ∧
    ((∀ p ∈ template.check registry,
        p.flaw.code ≠ "unknown-function" ∧ p.flaw.code ≠ "too-few-args") →
      ∀ data, template.strictRender registry data = liftM (template.render registry data)) := by
  refine ⟨fun o ho scope => agrees_of_mem_calls registry scope ho, ?_, ?_⟩
  · rintro ⟨path, flaw⟩ hp hcode
    obtain ⟨o, ho, hpath, hflaw⟩ := (mem_check_iff ((ofCall_iff_code flaw).mpr hcode)).mp hp
    refine ⟨o, ho, hpath, ?_⟩
    cases flaw with
    | malformedTag text => simp [Flaw.code] at hcode
    | emptyBinding => simp [Flaw.code] at hcode
    | unknownFunction name =>
      obtain ⟨rfl, _⟩ := unknownFunction_mem_flaws.mp hflaw
      exact .inl rfl
    | tooFewArguments name needed supplied =>
      obtain ⟨rfl, rfl, _⟩ := tooFewArguments_mem_flaws.mp hflaw
      exact .inr ⟨needed, rfl⟩
  · intro hclean data
    apply strictRender_eq_lift
    intro p hp
    obtain ⟨hunknown, hfew⟩ := hclean p hp
    cases hcall : p.flaw.ofCall with
    | false => rfl
    | true =>
      obtain hcode | hcode := (ofCall_iff_code p.flaw).mp hcall
      · exact absurd hcode hunknown
      · exact absurd hcode hfew

/-- In the body of a loop, a pipe that is short of an argument is listed, and its value is the
message; a template whose only pipe has its arguments is rendered without any refusal. -/
theorem check_iff_refused_in_loop :
    (⟨[.node 0, .body, .node 0], .tooFewArguments "default" 2 1⟩ ∈
        Template.check ⟨[.loop (.path ["xs"]) "x" none
          [.interpolation (.pipe (.path ["x"]) "default" []) false] none]⟩ .standard ∧
      evaluate .standard (.ofData []) (.pipe (.path ["x"]) "default" []) =
        pure (.string (Fault.tooFewArguments "default" 2).message)) ∧
    Template.strictRender ⟨[.interpolation (.pipe (.path ["x"]) "trim" []) false]⟩ .standard [] =
      liftM (Template.render ⟨[.interpolation (.pipe (.path ["x"]) "trim" []) false]⟩ .standard
        []) := by
  have hlisted : ⟨[.node 0, .body, .node 0], .tooFewArguments "default" 2 1⟩ ∈
      Template.check ⟨[.loop (.path ["xs"]) "x" none
        [.interpolation (.pipe (.path ["x"]) "default" []) false] none]⟩ .standard := by
    decide +kernel
  have hclean : Template.check ⟨[.interpolation (.pipe (.path ["x"]) "trim" []) false]⟩
      .standard = [] := by
    decide +kernel
  refine ⟨⟨hlisted, ?_⟩, ?_⟩
  · refine ((check_iff_refused _ .standard).1
      ⟨[.node 0, .body, .node 0], .piped (.path ["x"]) "default" []⟩ ?_ _).short_value 2 hlisted
    simp [Template.calls, nodesCalls, nodeCalls, callsHere, Expr.calls, callsOf, fallbackCalls,
      Occurrence.under]
  · refine (check_iff_refused _ .standard).2.2 ?_ []
    rw [hclean]
    intro p hp
    cases hp

end Stencil

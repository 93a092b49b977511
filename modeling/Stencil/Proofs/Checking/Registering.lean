import Stencil.Proofs.Checking.Agreement
import Stencil.Proofs.Checking.Reports
import Stencil.Proofs.Registry.Content

/-!
# The check and registrations

A function of the host takes any number of arguments. So when one is registered, the calls of its
name have no flaw any more, and everything else that is wrong with a template stays wrong
(`Template.flawed_of_register`). Since the check lists the flaws of the sites in their order, and
there is only one such list, its report afterwards is the one before without the flaws of these
calls (`Template.check_of_register`).
-/

namespace Stencil

/-- The function that a flaw is about. -/
def Flaw.function? : Flaw → Option String
  | unknownFunction name => some name
  | tooFewArguments name _ _ => some name
  | malformedTag _ => none
  | emptyBinding => none

/-- The flaws of calls are those that are about a function. -/
lemma Flaw.ofCall_eq_isSome_function? (flaw : Flaw) : flaw.ofCall = flaw.function?.isSome := by
  cases flaw <;> rfl

/-- The flaws of a call are about the function that is called. -/
lemma Registry.Lacks.function?_eq {registry : Registry} {c : Call} {flaw : Flaw}
    (h : registry.Lacks c flaw) : flaw.function? = some c.name := by
  cases h with
  | unknown _ => rfl
  | short _ _ => rfl

section
variable {registry next : Registry} {name : String} {run : List Value → Value} {flaw : Flaw}

/-- The calls of a registered name have no flaws, and those of other names keep theirs. -/
lemma flaws_of_register (h : registry.register name run = .ok next) (other : String)
    (supplied : Nat) :
    next.flaws other supplied = if other = name then [] else registry.flaws other supplied := by
  unfold Registry.flaws
  rw [Registry.get?_of_register h]
  by_cases heq : other = name
  · rw [if_pos heq, if_pos heq]
  · rw [if_neg heq, if_neg heq]

/-- After a registration the calls have the flaws they had, apart from those about the new function.
-/
lemma Registry.lacks_of_register (h : registry.register name run = .ok next) {c : Call} :
    next.Lacks c flaw ↔ registry.Lacks c flaw ∧ flaw.function? ≠ some name := by
  have hfunction (hlacks : registry.Lacks c flaw) : flaw.function? ≠ some name ↔ c.name ≠ name := by
    rw [hlacks.function?_eq, Ne, Option.some_inj]
  -- so the condition on the flaw is one on the call, as in the flaws after the registration
  rw [and_congr_right hfunction, lacks_iff, lacks_iff, flaws_of_register h]
  split
  · case isTrue heq => simp [heq]
  · case isFalse hne => simp [hne]

/-- After a registration the places own the flaws they did, apart from those about the new function.
-/
lemma Place.owns_of_register (h : registry.register name run = .ok next) {place : Place}
    {spot : Spot} :
    place.Owns next spot flaw ↔ place.Owns registry spot flaw ∧ flaw.function? ≠ some name := by
  constructor
  · intro howns
    cases howns with
    | text hs => exact ⟨.text hs, nofun⟩
    | call he hflaw =>
      obtain ⟨c, hc, hlacks⟩ := hflaw
      obtain ⟨hbefore, hne⟩ := (Registry.lacks_of_register h).mp hlacks
      exact ⟨.call he ⟨c, hc, hbefore⟩, hne⟩
    | binding hempty => exact ⟨.binding hempty, nofun⟩
  · rintro ⟨howns, hne⟩
    cases howns with
    | text hs => exact .text hs
    | call he hflaw =>
      obtain ⟨c, hc, hlacks⟩ := hflaw
      exact .call he ⟨c, hc, (Registry.lacks_of_register h).mpr ⟨hlacks, hne⟩⟩
    | binding hempty => exact .binding hempty

/-- A site keeps its flaw unless that is about the registered function. -/
lemma Template.flawed_of_register (h : registry.register name run = .ok next) {template : Template}
    {site : Site} :
    template.Flawed next site flaw ↔
      template.Flawed registry site flaw ∧ flaw.function? ≠ some name := by
  unfold Flawed Place.Flawed
  simp only [Place.owns_of_register h, ← and_assoc, exists_and_right]

/-- A registration takes the flaws of the calls of its name from the report and leaves the rest as
it is. -/
lemma Template.check_of_register (h : registry.register name run = .ok next)
    (template : Template) :
    template.check next =
      (template.check registry).filter fun p => p.flaw.function? ≠ some name := by
  have hafter : Lists Site.Before Site.problem
      (fun site flaw => template.Flawed registry site flaw ∧ flaw.function? ≠ some name)
      (template.check next) :=
    (template.check_lists next).congr fun _ _ => (flawed_of_register h).symm
  refine hafter.unique (fun _ _ hbefore => hbefore.asymm)
    ((template.check_lists registry).filter fun site flaw => ?_)
  rw [decide_eq_true_iff, Site.problem]

end

/-- Registrations, accepted or not, take from the report the flaws of the calls of the accepted
names, and leave the rest as it is. -/
lemma Template.check_after (template : Template) (registry : Registry)
    (calls : List Registration) :
    template.check (registry.after calls) = (template.check registry).filter fun p =>
      ∀ c ∈ registry.accepted calls, p.flaw.function? ≠ some c.name := by
  induction calls generalizing registry with
  | nil => simp [Registry.after, Registry.accepted]
  | cons c calls ih =>
    change template.check ((registry.attempt c).after calls) = _
    rw [ih]
    cases hc : registry.register c.name c.run with
    | ok next =>
      rw [Registry.attempt_of_ok hc, check_of_register hc, List.filter_filter, Registry.accepted,
        hc]
      refine List.filter_congr fun p _ => ?_
      simp [Bool.and_comm]
    | error e => rw [Registry.attempt_of_error hc, Registry.accepted, hc]

/-- An accepted registration takes from the report of the check, for any tree, the entries about
unknown functions and missing arguments that the calls and pipes of its name gave rise to; all
others stay as they are and in their order. So no run of registrations ever adds an entry. -/
theorem Template.check_register {registry next : Registry} {name : String}
    {run : List Value → Value} (h : registry.register name run = .ok next) (template : Template) :
    (template.check next =
      (template.check registry).filter fun p => p.flaw.function? ≠ some name) ∧
    (∀ p ∈ template.check registry, p.flaw.function? = some name ↔
      (p.flaw.code = "unknown-function" ∨ p.flaw.code = "too-few-args") ∧
        ∃ o ∈ template.calls, o.path = p.path ∧ o.call.name = name ∧
          p.flaw ∈ registry.flaws o.call.name o.call.supplied) ∧
    ∀ calls, (template.check (registry.after calls)).Sublist (template.check registry) := by
  refine ⟨check_of_register h template, fun p hp => ?_, fun calls => ?_⟩
  · have hname {o : Occurrence} (hflaw : p.flaw ∈ registry.flaws o.call.name o.call.supplied) :
        p.flaw.function? = some o.call.name :=
      (Registry.lacks_iff.mpr hflaw).function?_eq
    rw [← ofCall_iff_code, Flaw.ofCall_eq_isSome_function?]
    constructor
    · -- a flaw about a function is that of some call, and it tells the name of the call
      intro hfunction
      have hcall : p.flaw.ofCall = true := by
        rw [Flaw.ofCall_eq_isSome_function?, hfunction]
        rfl
      obtain ⟨o, ho, hpath, hflaw⟩ := (mem_check_iff hcall).mp hp
      have hsame := (hname hflaw).symm.trans hfunction
      exact ⟨by rw [hfunction]; rfl, o, ho, hpath, Option.some.inj hsame, hflaw⟩
    · rintro ⟨_, o, _, _, rfl, hflaw⟩
      exact hname hflaw
  · rw [check_after]
    exact List.filter_sublist

/-- A short pipe of a built-in as the source of a loop, with a call of an unknown function in it,
and once more as a call in the body. -/
def shortDefaults : Template :=
  ⟨[.text "a", .loop (.pipe (.call "f" []) "default" []) "x" none
    [.interpolation (.call "default" [.call "g" []]) false] none]⟩

/-- A function that takes the place of the built-in makes both right, at the source and in the body;
the unknown functions around and inside stay in the report. -/
theorem Template.check_register_default :
    ∃ next, Registry.standard.register "default" (fun _ => .null) = .ok next ∧
      shortDefaults.check .standard =
        [⟨[.node 1], .unknownFunction "f"⟩, ⟨[.node 1], .tooFewArguments "default" 2 1⟩,
          ⟨[.node 1, .body, .node 0], .tooFewArguments "default" 2 1⟩,
          ⟨[.node 1, .body, .node 0], .unknownFunction "g"⟩] ∧
      shortDefaults.check next =
        [⟨[.node 1], .unknownFunction "f"⟩, ⟨[.node 1, .body, .node 0], .unknownFunction "g"⟩] := by
  have hbefore : shortDefaults.check .standard =
      [⟨[.node 1], .unknownFunction "f"⟩, ⟨[.node 1], .tooFewArguments "default" 2 1⟩,
        ⟨[.node 1, .body, .node 0], .tooFewArguments "default" 2 1⟩,
        ⟨[.node 1, .body, .node 0], .unknownFunction "g"⟩] := by
    decide +kernel
  have hnext : Registry.standard.register "default" (fun _ => .null) =
      .ok ⟨Fields.insert Registry.standard.functions "default" (.host fun _ => .null)⟩ := rfl
  refine ⟨_, hnext, hbefore, ?_⟩
  rw [(check_register hnext shortDefaults).1, hbefore]
  decide

end Stencil

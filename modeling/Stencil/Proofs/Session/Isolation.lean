import Stencil.Proofs.Session.Sharing

/-!
# Saved registries are kept apart

What is asked of a saved registry depends on two things of the session: the registry saved under the
name, and the compiled templates (`Session.answer_congr`). A request that saves nothing under the
name keeps the first, whatever it registers (`Session.get?_saved_step`), and only `compile` touches
the second. So along a run both are those of the moment when the registry was saved, but for the
templates compiled since. A rejected registration leaves the session as it is. A process answers as
the session it shows, so the same is true of registries behind shared handles.
-/

namespace Stencil

namespace Request

/-- The name under which a request saves a registry. -/
def savesAs : Request → Option String
  | .save _ name => some name
  | _ => none

/-- The saved registry that a question is put to. -/
def putTo : Request → Option String
  | .names saved => saved
  | .get saved _ => saved
  | .render saved _ _ => saved
  | .check saved _ => saved
  | _ => none

/-- Whether a request compiles a template. -/
def isCompile : Request → Bool
  | .compile _ _ _ => true
  | _ => false

end Request

/-- What a program that answers requests keeps apart. A question put to a saved registry is answered
as it would have been right after the registry was saved, with the templates compiled since, as long
as nothing else was saved under the name; and the other answers of a run stay if a rejected
registration is left out. -/
structure Isolated (run : List Request → List Answer) : Prop where
  saved_kept (before between later : List Request) {saved : Option String} {name : String}
    {request : Request}
    (hkept : ∀ first r rest, between = first ++ r :: rest → r.savesAs = some name →
      (run (before ++ .save saved name :: first ++ [r])).getLast? ≠ some .done)
    (hrequest : request.putTo = some name) :
    (run (before ++ .save saved name :: between ++ request :: later))[before.length +
        (between.length + 1)]? =
      (run (before ++ .save saved name :: between.filter Request.isCompile ++ [request])).getLast?
  rejected_ignored (before later : List Request) {name : String} {f : List Value → Value}
    {e : RegistryError}
    (h : (run (before ++ .register name f :: later))[before.length]? = some (.rejected e)) :
    run (before ++ later) = (run (before ++ .register name f :: later)).eraseIdx before.length

namespace Session

/-- The session after some requests. -/
def after (session : Session) (requests : List Request) : Session :=
  requests.foldl (fun session request => (session.step request).2) session

/-- Requests in two parts are answered one part after the other. -/
lemma run_append (session : Session) (before later : List Request) :
    session.run (before ++ later) = session.run before ++ (session.after before).run later := by
  induction before generalizing session with
  | nil => rfl
  | cons request before ih => exact congrArg (List.cons _) (ih _)

/-- Each request has one answer. -/
@[simp] lemma length_run (session : Session) (requests : List Request) :
    (session.run requests).length = requests.length := by
  induction requests generalizing session with
  | nil => rfl
  | cons request rest ih => exact congrArg Nat.succ (ih _)

/-- What two parts of requests leave is what the second leaves after the first. -/
lemma after_append (session : Session) (before later : List Request) :
    session.after (before ++ later) = (session.after before).after later :=
  List.foldl_append

/-- The answer to a request is given in the session that the ones before it left. -/
lemma getElem?_run (session : Session) (before : List Request) (request : Request)
    (later : List Request) :
    (session.run (before ++ request :: later))[before.length]? =
      some ((session.after before).step request).1 := by
  rw [run_append, List.getElem?_append_right (by simp), length_run, Nat.sub_self]
  rfl

/-- The last answer is that to the last request. -/
lemma getLast?_run (session : Session) (before : List Request) (request : Request) :
    (session.run (before ++ [request])).getLast? =
      some ((session.after before).step request).1 := by
  rw [run_append]
  exact List.getLast?_concat

/-- A request changes the current registry, what is saved under its name, or the templates. -/
lemma step_cases (session : Session) (request : Request) :
    (∃ registry, (session.step request).2 = { session with current := registry }) ∨
    (∃ name registry, request.savesAs = some name ∧ (session.step request).1 = .done ∧
      (session.step request).2 =
        { session with saved := Fields.insert session.saved name registry }) ∨
    (∃ name limits text, request = .compile name limits text) := by
  have hkept : session = { session with current := session.current } := rfl
  cases request with
  | register name f =>
    refine .inl ?_
    simp only [step]
    cases session.current.register name f with
    | ok registry => exact ⟨registry, rfl⟩
    | error _ => exact ⟨session.current, hkept⟩
  | save saved name =>
    simp only [step]
    cases session.registry saved with
    | ok registry => exact .inr (.inl ⟨name, registry, rfl, rfl, rfl⟩)
    | error _ => exact .inl ⟨session.current, hkept⟩
  | compile name limits text => exact .inr (.inr ⟨name, limits, text, rfl⟩)
  | names _ => exact .inl ⟨session.current, hkept⟩
  | get _ _ => exact .inl ⟨session.current, hkept⟩
  | render _ _ _ => exact .inl ⟨session.current, hkept⟩
  | check _ _ => exact .inl ⟨session.current, hkept⟩

/-- What is saved under a name stays unless a request saves under that name and is done. -/
lemma get?_saved_step {session : Session} {request : Request} {name : String}
    (h : request.savesAs = some name → (session.step request).1 ≠ .done) :
    Fields.get? (session.step request).2.saved name = Fields.get? session.saved name := by
  obtain ⟨_, hnext⟩ | ⟨other, _, hother, hdone, hnext⟩ | ⟨_, _, _, rfl⟩ :=
    session.step_cases request
  · rw [hnext]
  · rw [hnext]
    exact Fields.get?_insert_of_ne _ _ fun heq => h (heq ▸ hother) hdone
  · rfl

/-- Only `compile` changes the templates. -/
lemma templates_step {session : Session} {request : Request} (h : request.isCompile = false) :
    (session.step request).2.templates = session.templates := by
  obtain ⟨_, hnext⟩ | ⟨_, _, _, _, hnext⟩ | ⟨_, _, _, rfl⟩ := session.step_cases request
  · rw [hnext]
  · rw [hnext]
  · cases h

/-- What `compile` makes of the templates depends on nothing else. -/
lemma templates_step_congr {s t : Session} (h : s.templates = t.templates) {request : Request}
    (hcompile : request.isCompile = true) :
    (s.step request).2.templates = (t.step request).2.templates := by
  cases request with
  | compile name limits text =>
    exact congrArg (Fields.insert · name (Template.parse limits text)) h
  | _ => cases hcompile

/-- What is asked of a saved registry depends only on that registry and the templates. -/
lemma answer_congr {s t : Session} {name : String} {request : Request}
    (hrequest : request.putTo = some name)
    (hsaved : Fields.get? s.saved name = Fields.get? t.saved name)
    (htemplates : s.templates = t.templates) : (s.step request).1 = (t.step request).1 := by
  have hregistry : s.registry (some name) = t.registry (some name) := by
    simp only [registry, hsaved]
  have hcompiled : s.compiled = t.compiled := by
    funext other
    simp only [compiled, htemplates]
  have htemplate : s.template = t.template := by
    funext source
    cases source with
    | compiled other => exact congrFun hcompiled other
    | text _ => rfl
  cases request with
  | names saved =>
    cases hrequest
    simp only [step, hregistry]
  | get saved _ =>
    cases hrequest
    simp only [step, hregistry]
  | render saved _ _ =>
    cases hrequest
    simp only [step, hregistry, htemplate]
  | check saved _ =>
    cases hrequest
    simp only [step, hregistry, hcompiled]
  | _ => cases hrequest

/-- A rejected registration leaves the session as it is. -/
lemma step_register_of_rejected {session : Session} {name : String} {f : List Value → Value}
    {e : RegistryError} (h : (session.step (.register name f)).1 = .rejected e) :
    (session.step (.register name f)).2 = session := by
  simp only [step] at h ⊢
  cases hregister : session.current.register name f with
  | ok _ =>
    rw [hregister] at h
    cases h
  | error _ => rfl

/-- A saved registry stays if no request saves another one under its name. -/
lemma get?_saved_after {session : Session} {requests : List Request} {name : String}
    (h : ∀ first r rest, requests = first ++ r :: rest → r.savesAs = some name →
      ((session.after first).step r).1 ≠ .done) :
    Fields.get? (session.after requests).saved name = Fields.get? session.saved name := by
  induction requests generalizing session with
  | nil => rfl
  | cons request rest ih =>
    have hrest := ih fun first r rest' heq => h (request :: first) r rest' (heq ▸ rfl)
    exact hrest.trans (get?_saved_step (h [] request rest rfl))

/-- Compilations save nothing. -/
lemma saved_after_compile (session : Session) (requests : List Request) :
    (session.after (requests.filter Request.isCompile)).saved = session.saved := by
  induction requests generalizing session with
  | nil => rfl
  | cons request rest ih =>
    cases request with
    | compile _ _ _ => exact ih _
    | _ => exact ih _

/-- The templates after a run are those that its compilations alone leave. -/
lemma templates_after {s t : Session} (h : s.templates = t.templates) (requests : List Request) :
    (s.after requests).templates = (t.after (requests.filter Request.isCompile)).templates := by
  induction requests generalizing s t with
  | nil => exact h
  | cons request rest ih =>
    cases hcompile : request.isCompile with
    | true =>
      rw [List.filter_cons_of_pos hcompile]
      exact ih (templates_step_congr h hcompile)
    | false =>
      rw [List.filter_cons_of_neg (by simp [hcompile])]
      exact ih ((templates_step hcompile).trans h)

/-- In a session saved registries are kept apart. -/
lemma isolated (session : Session) : Isolated session.run where
  saved_kept before between later {saved name request} hkept hrequest := by
    have hlong := session.getElem?_run (before ++ .save saved name :: between) request later
    rw [List.length_append, List.length_cons] at hlong
    rw [hlong, getLast?_run, after_append, after_append]
    refine congrArg some (answer_congr hrequest ?_ (templates_after rfl between))
    let saving := ((session.after before).step (.save saved name)).2
    calc Fields.get? (saving.after between).saved name
      _ = Fields.get? saving.saved name := get?_saved_after fun first r rest heq hr => by
          have hdone := hkept first r rest heq hr
          rwa [getLast?_run, after_append, Ne, Option.some_inj] at hdone
      _ = Fields.get? (saving.after (between.filter Request.isCompile)).saved name := by
          rw [saved_after_compile]
  rejected_ignored before later {name f e} h := by
    rw [getElem?_run, Option.some_inj] at h
    rw [run_append, run_append, List.eraseIdx_append_of_length_le (by simp), length_run,
      Nat.sub_self]
    change _ = _ ++ ((session.after before).step (.register name f)).2.run later
    rw [step_register_of_rejected h]

end Session

/-- Saved registries are kept apart in every session, and in every process, where they are shared
until the current one changes. -/
theorem isolated_run (session : Session) (process : Process) :
    Isolated session.run ∧ Isolated process.run := by
  have hprocess : process.run = process.session.run := funext process.run_eq
  exact ⟨session.isolated, hprocess ▸ process.session.isolated⟩

/-- A function is registered, the registry saved, the function replaced, and a registration
rejected. -/
def replacing : List Request :=
  [.register "tag" fun _ => .string "first", .save none "old",
    .register "tag" fun _ => .string "second", .register "no-tag" fun _ => .null]

/-- The saved registry still has the first function, and the second is the current one whether the
rejected registration was asked for or not. -/
theorem isolated_run_replacing :
    ((Process.start .standard).run (replacing ++ [.get (some "old") "tag"]))[4]? =
        some (.function (some (.host fun _ => .string "first"))) ∧
      (Process.start .standard).run (replacing.dropLast ++ [.get none "tag"]) =
        ((Process.start .standard).run (replacing ++ [.get none "tag"])).eraseIdx 3 := by
  have h := (isolated_run (Session.start .standard) (Process.start .standard)).2
  refine ⟨?_, ?_⟩
  · have hunsaved : ∀ r ∈ replacing.drop 2, r.savesAs ≠ some "old" := by
      simp [replacing, Request.savesAs]
    refine (h.saved_kept (replacing.take 1) (replacing.drop 2) [] ?_ rfl).trans rfl
    intro first r rest heq hr
    exact absurd hr (hunsaved r (heq ▸ List.mem_append_cons_self))
  · exact h.rejected_ignored (replacing.take 3) [.get none "tag"] rfl

end Stencil

import Stencil.Process
import Mathlib.Tactic.Lemma

/-!
# Sharing a registry

A process keeps handles where a session keeps registries. The two answer alike because a registry is
only changed where no saved name can see it: before a registration the current registry is unshared,
which shows in nothing (`Process.session_unshare`), and from then on no saved name has its handle
(`Process.ne_current_of_unshare`). So one step of a process is the step of the session it shows
(`Process.step_eq`), and its runs are the runs of that session (`Process.run_eq`).
-/

namespace Stencil.Process

/-- Sessions are equal if their parts are. -/
lemma session_ext {s t : Session} (hcurrent : s.current = t.current) (hsaved : s.saved = t.saved)
    (htemplates : s.templates = t.templates) : s = t := by
  cases s
  cases t
  congr

/-- What is read behind a handle is what is in the memory there. -/
lemma read_of_getElem? {p : Process} {handle : Nat} {registry : Registry}
    (h : p.memory[handle]? = some registry) : p.read handle = registry := by
  rw [read, h]
  rfl

/-- Two memories with the same behind a handle are read alike there. -/
lemma read_congr {p q : Process} {handle : Nat} (h : p.memory[handle]? = q.memory[handle]?) :
    p.read handle = q.read handle := by
  rw [read, read, h]

/-- What stands behind the saved handles shows nothing of a change of the memory elsewhere. -/
lemma mapValues_read_congr {p q : Process} {saved : Fields Nat}
    (h : ∀ r ∈ saved, p.read r.2 = q.read r.2) : saved.mapValues p.read = saved.mapValues q.read :=
  List.map_congr_left fun r hr => by rw [h r hr]

/-- A copy of the current registry shows in nothing. -/
lemma session_unshare (p : Process) : p.unshare.session = p.session := by
  unfold unshare
  split
  · have hcopy : (p.memory ++ [p.read p.current])[p.memory.length]? = some (p.read p.current) :=
      List.getElem?_concat_length
    refine session_ext ?_ (mapValues_read_congr fun r hr => ?_) rfl
    · exact read_of_getElem? hcopy
    · exact read_congr (List.getElem?_append_left (p.saved_lt r hr))
  · rfl

/-- After it no saved name has the handle of the current registry. -/
lemma ne_current_of_unshare {p : Process} {q : String × Nat} (h : q ∈ p.unshare.saved) :
    q.2 ≠ p.unshare.current := by
  unfold unshare at h ⊢
  split at h
  · case isTrue hshared =>
    rw [if_pos hshared]
    exact Nat.ne_of_lt (p.saved_lt q h)
  · case isFalse hshared =>
    rw [if_neg hshared]
    intro hq
    exact hshared (List.any_eq_true.mpr ⟨q, h, decide_eq_true hq⟩)

/-- A registry that no saved name shares can be changed in place. -/
lemma session_overwrite {p : Process} (h : ∀ q ∈ p.saved, q.2 ≠ p.current) (registry : Registry) :
    (p.overwrite registry).session = { p.session with current := registry } := by
  refine session_ext ?_ (mapValues_read_congr fun r hr => ?_) rfl
  · exact read_of_getElem? (List.getElem?_set_self p.current_lt)
  · exact read_congr (List.getElem?_set_ne (h r hr).symm)

/-- To keep a handle is to save the registry behind it. -/
lemma session_keep (p : Process) (name : String) {handle : Nat} (h : handle < p.memory.length) :
    (p.keep name handle h).session =
      { p.session with saved := Fields.insert p.session.saved name (p.read handle) } :=
  session_ext rfl (Fields.mapValues_insert p.read p.saved name handle) rfl

/-- The handle that a request is put to leads to the registry that it is put to. -/
lemma registry_session (p : Process) (saved : Option String) :
    p.session.registry saved = (p.handle saved).map p.read := by
  cases saved with
  | none => rfl
  | some name =>
    have hget : Fields.get? p.session.saved name = (Fields.get? p.saved name).map p.read :=
      Fields.get?_mapValues p.read p.saved name
    simp only [Session.registry, handle, hget]
    cases Fields.get? p.saved name with
    | none => rfl
    | some handle => rfl

/-- A process registers as its session does. -/
lemma register_eq (p : Process) (name : String) (run : List Value → Value) :
    (p.register name run).map id session = p.session.step (.register name run) := by
  have hcurrent : p.unshare.read p.unshare.current = p.session.current :=
    congrArg Session.current p.session_unshare
  simp only [register, Session.step, hcurrent]
  cases p.session.current.register name run with
  | ok registry =>
    change (Answer.done, (p.unshare.overwrite registry).session) = _
    rw [session_overwrite (fun q => ne_current_of_unshare) registry, session_unshare]
  | error e =>
    change (Answer.rejected e, p.unshare.session) = _
    rw [session_unshare]

/-- A process saves as its session does. -/
lemma save_eq (p : Process) (saved : Option String) (name : String) :
    (p.save saved name).map id session = p.session.step (.save saved name) := by
  unfold save
  split
  · case h_1 handle h =>
    have hregistry : p.session.registry saved = .ok (p.read handle) := by
      rw [registry_session, h]
      rfl
    simp only [Session.step, hregistry]
    exact congrArg (Prod.mk Answer.done) (p.session_keep name (handle_lt h))
  · case h_2 answer h =>
    have hregistry : p.session.registry saved = .error answer := by
      rw [registry_session, h]
      rfl
    simp only [Session.step, hregistry]
    rfl

/-- A step of a process is the step of the session it shows. -/
theorem step_eq (p : Process) (request : Request) :
    (p.step request).map id session = p.session.step request := by
  cases request with
  | register name run => exact p.register_eq name run
  | save saved name => exact p.save_eq saved name
  | names _ => rfl
  | get _ _ => rfl
  | compile _ _ _ => rfl
  | render _ _ _ => rfl
  | check _ _ => rfl

/-- A process answers as the session it shows. -/
theorem run_eq (p : Process) (requests : List Request) :
    p.run requests = p.session.run requests := by
  induction requests generalizing p with
  | nil => rfl
  | cons request rest ih =>
    have hstep := p.step_eq request
    change (p.step request).1 :: (p.step request).2.run rest =
      (p.session.step request).1 :: (p.session.step request).2.run rest
    rw [ih, ← hstep]
    rfl

end Stencil.Process

import Stencil.Session

/-!
# Processes

The sessions of a program that has one registry for the whole process. The current registry stands
behind a handle, and to save a registry is to keep its handle, not to copy it. A registration
changes the registry in place if no saved name shares the handle, and otherwise changes a copy that
becomes the current one (copy on write). The copy is made before the name of the function is looked
at, so also for a registration that is then rejected.
-/

namespace Stencil

/-- The state of a process. A handle is the place of a registry in the memory. -/
structure Process where
  memory : List Registry
  current : Nat
  saved : Fields Nat
  templates : Fields Template
  current_lt : current < memory.length
  saved_lt : ∀ p ∈ saved, p.2 < memory.length

namespace Process

/-- The process that begins with a registry. -/
def start (registry : Registry) : Process :=
  ⟨[registry], 0, [], [], Nat.zero_lt_one, nofun⟩

/-- The registry behind a handle. -/
def read (p : Process) (handle : Nat) : Registry :=
  p.memory[handle]?.getD .empty

/-- What a process shows: every handle is replaced by the registry behind it. -/
def session (p : Process) : Session :=
  ⟨p.read p.current, p.saved.mapValues p.read, p.templates⟩

/-- The handle of the registry that a request is put to. -/
def handle (p : Process) : Option String → Except Answer Nat
  | none => .ok p.current
  | some name =>
    match Fields.get? p.saved name with
    | some handle => .ok handle
    | none => .error (.unknownName name)

/-- The handle of an instance is within the memory. -/
theorem handle_lt {p : Process} {saved : Option String} {handle : Nat}
    (h : p.handle saved = .ok handle) : handle < p.memory.length := by
  unfold Process.handle at h
  split at h
  · cases h
    exact p.current_lt
  · split at h
    · case h_1 hget =>
      cases h
      exact p.saved_lt _ (Fields.mem_of_get? hget)
    · cases h

/-- Whether the current registry was saved under some name. -/
def isShared (p : Process) : Bool :=
  p.saved.any fun q => q.2 = p.current

/-- Makes the current registry one that no saved name shares, with a copy where it takes one. -/
def unshare (p : Process) : Process :=
  if p.isShared then
    { p with
      memory := p.memory ++ [p.read p.current]
      current := p.memory.length
      current_lt := by simp
      saved_lt := fun q hq => by
        have := p.saved_lt q hq
        rw [List.length_append]
        omega }
  else p

/-- Changes the current registry in place. -/
def overwrite (p : Process) (registry : Registry) : Process :=
  { p with
    memory := p.memory.set p.current registry
    current_lt := by
      rw [List.length_set]
      exact p.current_lt
    saved_lt := by
      rw [List.length_set]
      exact p.saved_lt }

/-- Keeps a handle under a name. -/
def keep (p : Process) (name : String) (handle : Nat) (h : handle < p.memory.length) : Process :=
  { p with
    saved := Fields.insert p.saved name handle
    saved_lt := fun q hq => by
      obtain rfl | hq := Fields.mem_of_mem_insert hq
      · exact h
      · exact p.saved_lt q hq }

/-- Registers a function in the current registry. -/
def register (p : Process) (name : String) (run : List Value → Value) : Answer × Process :=
  let own := p.unshare
  match (own.read own.current).register name run with
  | .ok registry => (.done, own.overwrite registry)
  | .error e => (.rejected e, own)

/-- Saves a registry: its handle is kept. -/
def save (p : Process) (saved : Option String) (name : String) : Answer × Process :=
  match h : p.handle saved with
  | .ok handle => (.done, p.keep name handle (handle_lt h))
  | .error answer => (answer, p)

/-- Answers a request. A question is answered from the registries behind the handles. -/
def step (p : Process) : Request → Answer × Process
  | .register name run => p.register name run
  | .save saved name => p.save saved name
  | .compile name limits text =>
    let template := Template.parse limits text
    (.compiled template, { p with templates := Fields.insert p.templates name template })
  | request => ((p.session.step request).1, p)

/-- Answers some requests, each in the state that the ones before it left. -/
def run (p : Process) : List Request → List Answer
  | [] => []
  | request :: rest =>
    let (answer, next) := p.step request
    answer :: next.run rest

end Process

end Stencil

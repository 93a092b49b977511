import Stencil.Evaluation.Builtin
import Stencil.Text.Escaping
import Stencil.Text.Classes

/-!
# Registries

A registry is a table of the functions that a template can call: built-ins and functions of the
host. A host function sees only evaluated arguments. It can be registered under any name that a
template can write, and takes the place of what had the name before. A registry is a value: a copy
taken earlier does not change when more functions are registered.
-/

namespace Stencil

/-- A function that a template can call. -/
inductive Function
  | builtin (b : Builtin)
  | host (run : List Value → Value)

/-- A function in words. -/
def Function.description : Function → String
  | builtin b => "Builtin \x7b min_args: " ++ b.minArgs.repr ++ ", .. \x7d"
  | host _ => "Custom(..)"

/-- Why a function cannot be registered. -/
inductive RegistryError
  | invalidName (name : String)
deriving DecidableEq

/-- An error in a registration, in words. -/
def RegistryError.message : RegistryError → String
  | invalidName name =>
    "invalid function name " ++ Text.quoted name ++ ": expected letters, digits or '_'"

/-- A table of functions. -/
structure Registry where
  functions : Fields Function

namespace Registry

/-- The registry without functions. -/
def empty : Registry :=
  ⟨[]⟩

/-- The registry of the built-ins. -/
def standard : Registry :=
  ⟨Fields.ofPairs (Builtin.all.map fun b => (b.name, .builtin b))⟩

/-- The function with a name. -/
def get? (registry : Registry) (name : String) : Option Function :=
  Fields.get? registry.functions name

/-- Whether there is a function with a name. -/
def contains (registry : Registry) (name : String) : Bool :=
  (registry.get? name).isSome

/-- The names of the functions in ascending order. -/
def names (registry : Registry) : List String :=
  Fields.names registry.functions

/-- Registers a function of the host. -/
def register (registry : Registry) (name : String) (run : List Value → Value) :
    Except RegistryError Registry :=
  if Text.isName name then .ok ⟨Fields.insert registry.functions name (.host run)⟩
  else .error (.invalidName name)

/-- A registered function is found under its name, and what the other names lead to stays. -/
theorem get?_of_register {registry next : Registry} {name : String} {run : List Value → Value}
    (h : registry.register name run = .ok next) (other : String) :
    next.get? other = if other = name then some (.host run) else registry.get? other := by
  unfold register at h
  split at h
  · cases h
    split
    · case isTrue heq =>
      rw [heq]
      exact Fields.get?_insert_self _ _ _
    · case isFalse hne => exact Fields.get?_insert_of_ne _ _ hne
  · contradiction

/-- Exactly the names are accepted. -/
theorem register_eq_error_iff {registry : Registry} {name : String} {run : List Value → Value}
    {e : RegistryError} :
    registry.register name run = .error e ↔ Text.isName name = false ∧ e = .invalidName name := by
  unfold register
  cases Text.isName name with
  | true => simp
  | false => simp [eq_comm]

end Registry

end Stencil

import Stencil.Value.Basic

/-!
# Scopes

The names that a path can begin with: the fields of the data, and in front of them the bindings of
the loops around, innermost first. A binding hides the outer ones of its name for one round of its
loop and changes none of them.
-/

namespace Stencil

/-- The bindings of one round of a loop: the item, and the index if it has a name. -/
structure Frame where
  item : String
  value : Value
  index : Option (String × Nat)

namespace Frame

/-- The value bound to a name. The index hides the item if both have one name. -/
def get? (f : Frame) (name : String) : Option Value :=
  match f.index with
  | some (index, i) =>
    if index = name then some (.ofNat i) else if f.item = name then some f.value else none
  | none => if f.item = name then some f.value else none

end Frame

/-- The names in force at one point of a render. -/
structure Scope where
  frames : List Frame
  data : Fields Value

namespace Scope

/-- The scope outside of all loops. -/
def ofData (data : Fields Value) : Scope :=
  ⟨[], data⟩

/-- The scope of one round of a loop. -/
def push (scope : Scope) (f : Frame) : Scope :=
  { scope with frames := f :: scope.frames }

/-- The value of a name. -/
def lookup (scope : Scope) (name : String) : Option Value :=
  match scope.frames.findSome? fun f => f.get? name with
  | some v => some v
  | none => Fields.get? scope.data name

/-- The value at a path: that of its first segment, and from there one part after another. The empty
path leads nowhere. -/
def resolve (scope : Scope) : List String → Option Value
  | [] => none
  | name :: rest => (scope.lookup name).bind fun v => v.follow? rest

/-- In a scope without frames a name is looked up in the data. -/
@[simp] theorem lookup_ofData (data : Fields Value) (name : String) :
    (ofData data).lookup name = Fields.get? data name := rfl

/-- A name is looked up in the innermost frame first. -/
theorem lookup_push (scope : Scope) (f : Frame) (name : String) :
    (scope.push f).lookup name = (f.get? name).or (scope.lookup name) := by
  unfold lookup push
  rw [List.findSome?_cons]
  cases f.get? name with
  | none => rfl
  | some v => rfl

end Scope

end Stencil

import Stencil.Value.Basic

/-!
# Results with their host calls

Evaluation is pure but for the calls that it makes to functions of the host. `Traced α` is a result
together with those calls in their order. An operand that is not evaluated is a traced value whose
calls are left out of the trace.
-/

namespace Stencil

/-- A call of a host function: its name and the arguments it was given. -/
structure HostCall where
  name : String
  args : List Value
deriving Inhabited

/-- A result and the host calls made on the way to it. -/
@[ext] structure Traced (α : Type) where
  value : α
  calls : List HostCall
deriving Inhabited

namespace Traced

variable {α β : Type}

instance : Monad Traced where
  pure a := ⟨a, []⟩
  bind x f :=
    let y := f x.value
    ⟨y.value, x.calls ++ y.calls⟩

/-- A result that is there is the value. -/
@[simp] theorem value_pure (a : α) : (pure a : Traced α).value = a := rfl

/-- A result that is there makes no call. -/
@[simp] theorem calls_pure (a : α) : (pure a : Traced α).calls = [] := rfl

/-- The value of two steps is that of the second one. -/
@[simp] theorem value_bind (x : Traced α) (f : α → Traced β) :
    (x >>= f).value = (f x.value).value := rfl

/-- The calls of the first step come before those of the second one. -/
@[simp] theorem calls_bind (x : Traced α) (f : α → Traced β) :
    (x >>= f).calls = x.calls ++ (f x.value).calls := rfl

/-- A function is applied to the value. -/
@[simp] theorem value_map (f : α → β) (x : Traced α) : (f <$> x).value = f x.value := rfl

/-- A function of the value makes no call. -/
@[simp] theorem calls_map (f : α → β) (x : Traced α) : (f <$> x).calls = x.calls :=
  List.append_nil _

instance : LawfulMonad Traced :=
  LawfulMonad.mk'
    Traced
    (fun x => Traced.ext rfl (List.append_nil x.calls))
    (fun _ _ => rfl)
    (fun x _ _ => Traced.ext rfl (List.append_assoc x.calls _ _))

/-- Makes a host call. -/
def record (call : HostCall) : Traced Unit :=
  ⟨(), [call]⟩

/-- A call that is made is in the trace. -/
@[simp] theorem calls_record (call : HostCall) : (record call).calls = [call] := rfl

/-- Evaluates some operands from left to right. -/
def sequence : List (Traced α) → Traced (List α)
  | [] => pure []
  | x :: xs => do
    let a ← x
    let as ← sequence xs
    pure (a :: as)

/-- What evaluates operands in every monad is this for traced ones. -/
theorem mapM_id (xs : List (Traced α)) : xs.mapM id = sequence xs := by
  induction xs with
  | nil => rfl
  | cons x xs ih =>
    rw [List.mapM_cons, ih, sequence, id]

/-- Joins the texts of some results from left to right. -/
def concat (xs : List (Traced String)) : Traced String :=
  String.join <$> sequence xs

/-- The values of operands are those of each. -/
@[simp] theorem value_sequence (xs : List (Traced α)) :
    (sequence xs).value = xs.map Traced.value := by
  induction xs with
  | nil => rfl
  | cons x xs ih =>
    rw [sequence, value_bind, value_bind, value_pure, ih, List.map_cons]

/-- The calls of operands come in the order of the operands. -/
@[simp] theorem calls_sequence (xs : List (Traced α)) :
    (sequence xs).calls = xs.flatMap Traced.calls := by
  induction xs with
  | nil => rfl
  | cons x xs ih =>
    rw [sequence, calls_bind, calls_bind, calls_pure, ih, List.append_nil, List.flatMap_cons]

/-- Joined results have the joined texts. -/
@[simp] theorem value_concat (xs : List (Traced String)) :
    (concat xs).value = String.join (xs.map Traced.value) := by
  rw [concat, value_map, value_sequence]

/-- The calls of joined results come in the order of the results. -/
@[simp] theorem calls_concat (xs : List (Traced String)) :
    (concat xs).calls = xs.flatMap Traced.calls := by
  rw [concat, calls_map, calls_sequence]

/-- What joins the outputs of rounds in every monad is this for traced ones. -/
theorem mapM_eq_concat (f : β → Traced String) (rounds : List β) :
    (rounds.mapM f >>= fun outs => pure (String.join outs)) = concat (rounds.map f) := by
  rw [← map_eq_pure_bind, concat, ← mapM_id, List.mapM_map]
  rfl

end Traced

end Stencil

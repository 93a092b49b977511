import Stencil.Evaluation.Registry
import Stencil.Evaluation.Scope
import Stencil.Evaluation.Traced
import Stencil.Template.Tree

/-!
# Evaluating expressions

An expression always has a value: what cannot be called has a message for its value. The arguments
of a host function are evaluated from left to right before it is called; those of a built-in are
left to it, and none is evaluated if there are too few.

What else happens on the way to a value is left to a `Handler`, in any monad: it makes the calls of
the host, and it answers the calls that cannot be made. `evaluate` is evaluation with the handler
that keeps a trace and answers with messages.
-/

namespace Stencil

/-- What evaluation does beside giving values: host calls are made, and calls that cannot be made
are answered in their own way. -/
structure Handler (m : Type → Type) where
  record : HostCall → m Unit
  refuse : Call → Fault → m Value

section
variable {m : Type → Type} [Monad m]

/-- Calls a function by its name. `record` makes the call if it is one of the host, and `refuse`
answers it if there is no such function or if it needs more arguments. -/
def Registry.callWith (registry : Registry) (record : HostCall → m Unit) (refuse : Fault → m Value)
    (name : String) (args : List (m Value)) : m Value :=
  match registry.get? name with
  | none => refuse (.unknownFunction name)
  | some (.builtin b) =>
    if args.length < b.minArgs then refuse (.tooFewArguments name b.minArgs)
    else b.run args
  | some (.host run) => do
    let values ← args.mapM id
    record ⟨name, values⟩
    pure (run values)

namespace Handler

variable (handler : Handler m) (registry : Registry) (scope : Scope)

/-- Makes a call of a template with its operands. -/
def call (c : Call) (args : List (m Value)) : m Value :=
  registry.callWith handler.record (handler.refuse c) c.name args

mutual

/-- The value of an expression. What a path does not lead to is `null`. -/
def evaluate : Expr → m Value
  | .literal v => pure v
  | .path segments => pure ((scope.resolve segments).getD .null)
  | .call name args => handler.call registry (.direct name args) (operands args)
  | .pipe input name args =>
    handler.call registry (.piped input name args) (evaluate input :: operands args)

/-- Some expressions as operands. -/
def operands : List Expr → List (m Value)
  | [] => []
  | e :: es => evaluate e :: operands es

end

variable {handler registry scope}

/-- Operands are expressions that are evaluated one by one. -/
theorem operands_eq_map (es : List Expr) :
    handler.operands registry scope es = es.map (handler.evaluate registry scope) := by
  induction es with
  | nil => rw [operands, List.map_nil]
  | cons e es ih => rw [operands, List.map_cons, ih]

/-- The value of a call is made of its operands. -/
theorem evaluate_expr (c : Call) :
    handler.evaluate registry scope c.expr =
      handler.call registry c (c.operands.map (handler.evaluate registry scope)) := by
  cases c with
  | direct name args => rw [Call.expr, evaluate, operands_eq_map, Call.operands]
  | piped input name args =>
    rw [Call.expr, evaluate, operands_eq_map, Call.operands, List.map_cons]

end Handler

end

/-- Host calls go into the trace, and a call that cannot be made has a message for its value. -/
def Traced.handler : Handler Traced where
  record := Traced.record
  refuse _ fault := pure (.string fault.message)

/-- Calls a function by its name; the value of a call that cannot be made is a message. -/
def Registry.call (registry : Registry) (name : String) (args : List (Traced Value)) :
    Traced Value :=
  registry.callWith Traced.record (fun fault => pure (.string fault.message)) name args

section
variable (registry : Registry) (scope : Scope)

/-- The value of an expression, with the host calls on the way to it. -/
def evaluate (e : Expr) : Traced Value :=
  Traced.handler.evaluate registry scope e

/-- Some expressions as operands with their host calls. -/
def operands (es : List Expr) : List (Traced Value) :=
  Traced.handler.operands registry scope es

/-- A call in terms of the function under its name. -/
theorem Registry.call_eq (name : String) (args : List (Traced Value)) :
    registry.call name args =
      match registry.get? name with
      | none => pure (.string (Fault.unknownFunction name).message)
      | some (.builtin b) =>
        if args.length < b.minArgs then
          pure (.string (Fault.tooFewArguments name b.minArgs).message)
        else b.run args
      | some (.host run) =>
        Traced.sequence args >>= fun values =>
          Traced.record ⟨name, values⟩ >>= fun _ => pure (run values) := by
  rw [Registry.call, Registry.callWith, Traced.mapM_id]

/-- A literal stands for itself. -/
theorem evaluate_literal (v : Value) : evaluate registry scope (.literal v) = pure v := by
  rw [evaluate, Handler.evaluate]

/-- A path has the value to which it leads, if there is one. -/
theorem evaluate_path (segments : List String) :
    evaluate registry scope (.path segments) = pure ((scope.resolve segments).getD .null) := by
  rw [evaluate, Handler.evaluate]

/-- A call is made with its arguments as operands. -/
theorem evaluate_call (name : String) (args : List Expr) :
    evaluate registry scope (.call name args) =
      registry.call name (operands registry scope args) := by
  rw [evaluate, Handler.evaluate]
  rfl

/-- A pipe is a call whose first operand is the input. -/
theorem evaluate_pipe (input : Expr) (name : String) (args : List Expr) :
    evaluate registry scope (.pipe input name args) =
      registry.call name (evaluate registry scope input :: operands registry scope args) := by
  rw [evaluate, Handler.evaluate]
  rfl

/-- Without expressions there are no operands. -/
theorem operands_nil : operands registry scope [] = [] := by
  rw [operands, Handler.operands]

/-- Each expression is an operand of its own. -/
theorem operands_cons (e : Expr) (es : List Expr) :
    operands registry scope (e :: es) =
      evaluate registry scope e :: operands registry scope es := by
  rw [operands, Handler.operands]
  rfl

/-- Operands are expressions that are evaluated one by one. -/
theorem operands_eq_map (es : List Expr) :
    operands registry scope es = es.map (evaluate registry scope) :=
  Handler.operands_eq_map es

/-- A call is made with its operands, one by one. -/
theorem evaluate_expr (c : Call) :
    evaluate registry scope c.expr =
      registry.call c.name (c.operands.map (evaluate registry scope)) :=
  Handler.evaluate_expr c

end

end Stencil

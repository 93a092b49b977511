import Stencil.Value.Basic

/-!
# Templates as trees

A template is a list of nodes: text, interpolations, conditionals and loops. The expressions in them
are literals, paths into the data, calls, and pipes, which hand a value to a call as its first
argument. Nothing in a template stops a render: what goes wrong shows as a text in the output, which
`Fault.message` gives. What a template from an untrusted source may cost is limited.
-/

namespace Stencil

/-- An expression inside a tag. -/
inductive Expr
  | literal (v : Value)
  | path (segments : List String)
  | call (name : String) (args : List Expr)
  | pipe (input : Expr) (name : String) (args : List Expr)
deriving Inhabited

/-- A call in an expression, direct or through a pipe. -/
inductive Call
  | direct (name : String) (args : List Expr)
  | piped (input : Expr) (name : String) (args : List Expr)

namespace Call

/-- The expression that is the call. -/
def expr : Call → Expr
  | direct name args => .call name args
  | piped input name args => .pipe input name args

/-- The function that is called. -/
def name : Call → String
  | direct name _ => name
  | piped _ name _ => name

/-- The operands of a call; the input of a pipe is the first. -/
def operands : Call → List Expr
  | direct _ args => args
  | piped input _ args => input :: args

/-- The number of arguments that are handed over; the input of a pipe is one. -/
def supplied : Call → Nat
  | direct _ args => args.length
  | piped _ _ args => args.length + 1

/-- All operands of a call are handed over. -/
theorem length_operands (c : Call) : c.operands.length = c.supplied := by
  cases c with
  | direct name args => rfl
  | piped input name args => rfl

end Call

/-- A part of a template. A conditional has a condition and a body for each branch; a loop names the
items of its source and, optionally, their index. Both may have a fallback. -/
inductive Node
  | text (s : String)
  | interpolation (e : Expr) (raw : Bool)
  | conditional (branches : List (Expr × List Node)) (fallback : Option (List Node))
  | loop (source : Expr) (item : String) (index : Option String) (body : List Node)
      (fallback : Option (List Node))
deriving Inhabited

/-- A template that has been read. -/
@[ext] structure Template where
  nodes : List Node
deriving Inhabited

/-- What can be wrong with a template or its data. -/
inductive Fault
  | unknownFunction (name : String)
  | tooFewArguments (name : String) (needed : Nat)
  | arrayInterpolation
  | objectInterpolation
  | sourceNotArray
  | missingAs
  | unknownBlock (keyword : String)
  | tooDeep
  | templateTooLarge
deriving DecidableEq

/-- The text that stands for a fault in the output. -/
def Fault.message : Fault → String
  | unknownFunction name => "[Error: unknown " ++ name ++ "()]"
  | tooFewArguments name needed => "[Error: " ++ name ++ "() needs " ++ needed.repr ++ " args]"
  | arrayInterpolation => "[Error: use #each for arrays]"
  | objectInterpolation => "[Error: cannot render object]"
  | sourceNotArray => "[Error: #each needs array]"
  | missingAs => "[Error: #each missing 'as']"
  | unknownBlock keyword => "[Error: unknown block #" ++ keyword ++ "]"
  | tooDeep => "[Error: nesting too deep]"
  | templateTooLarge => "[Error: template too large]"

/-- The limits that a template is read with: how deep blocks, and separately expressions, may go
inside one another, and how many bytes the template may have. -/
structure Limits where
  depth : Nat := 64
  length : Option Nat := none
deriving DecidableEq, Inhabited

end Stencil

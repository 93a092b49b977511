import Stencil.Evaluation.Registry
import Stencil.Template.Tree
import Stencil.Text.Classes

/-!
# Checking templates

Problems of a template that show before any data is known: texts that stand for malformed tags,
calls of unknown functions, calls with too few arguments, and loops whose names are empty. Each
problem comes with the way to its place in the tree, and problems are listed in the order of a walk:
a condition or source before its body, a body before its fallback, the input of a pipe before the
pipe, a function before its arguments.
-/

namespace Stencil

/-- A step into a tree: to a node of a list, a branch of a conditional, the body of a loop, or a
fallback. -/
inductive Step
  | node (i : Nat)
  | branch (i : Nat)
  | body
  | fallback
deriving DecidableEq

/-- A step in words. -/
def Step.text : Step → String
  | node i => "[" ++ i.repr ++ "]"
  | branch i => "if[" ++ i.repr ++ "]"
  | body => "each"
  | fallback => "else"

/-- What can be wrong at one place of a template. -/
inductive Flaw
  | malformedTag (text : String)
  | emptyBinding
  | unknownFunction (name : String)
  | tooFewArguments (name : String) (needed supplied : Nat)
deriving DecidableEq

namespace Flaw

/-- The name of the kind of a flaw. -/
def code : Flaw → String
  | malformedTag _ => "inline-error"
  | emptyBinding => "empty-binding"
  | unknownFunction _ => "unknown-function"
  | tooFewArguments _ _ _ => "too-few-args"

/-- A flaw in words. -/
def message : Flaw → String
  | malformedTag text => "Malformed tag: " ++ text
  | emptyBinding => "#each binding name is empty"
  | unknownFunction name => "Unknown function " ++ name ++ "()"
  | tooFewArguments name needed supplied =>
    name ++ "() needs " ++ needed.repr ++ " args but " ++ supplied.repr ++ " supplied"

end Flaw

/-- A flaw and the way to its place. -/
structure Problem where
  path : List Step
  flaw : Flaw
deriving DecidableEq

/-- The same problem seen from one step further out. -/
def Problem.under (step : Step) (p : Problem) : Problem :=
  { p with path := step :: p.path }

/-- Whether a text is one that takes the place of a malformed tag. -/
def isRecoveryText (text : String) : Bool :=
  let front := "[Error: unknown block #".toList
  text == Fault.missingAs.message || text == Fault.tooDeep.message ||
    text == Fault.templateTooLarge.message ||
    (front.isPrefixOf text.toList &&
      (text.toList.drop front.length).dropWhile Text.isWordChar == [']'])

/-- The flaw of a call with a number of arguments, if it has one. -/
def Registry.flaws (registry : Registry) (name : String) (supplied : Nat) : List Flaw :=
  match registry.get? name with
  | none => [.unknownFunction name]
  | some (.builtin b) =>
    if supplied < b.minArgs then [.tooFewArguments name b.minArgs supplied] else []
  | some (.host _) => []

mutual

/-- The flaws of an expression. -/
def checkExpr (registry : Registry) : Expr → List Flaw
  | .literal _ => []
  | .path _ => []
  | .call name args => registry.flaws name args.length ++ checkExprs registry args
  | .pipe input name args =>
    checkExpr registry input ++ registry.flaws name (args.length + 1) ++ checkExprs registry args

/-- The flaws of some expressions. -/
def checkExprs (registry : Registry) : List Expr → List Flaw
  | [] => []
  | e :: es => checkExpr registry e ++ checkExprs registry es

end

/-- Flaws as problems at the place where they are found. -/
def problemsHere (flaws : List Flaw) : List Problem :=
  flaws.map fun flaw => ⟨[], flaw⟩

mutual

/-- The problems of a node. -/
def checkNode (registry : Registry) : Node → List Problem
  | .text s => problemsHere (if isRecoveryText s then [.malformedTag s] else [])
  | .interpolation e _ => problemsHere (checkExpr registry e)
  | .conditional branches fallback =>
    checkBranches registry 0 branches ++ checkFallback registry fallback
  | .loop source item index body fallback =>
    problemsHere (checkExpr registry source) ++
      problemsHere (if item = "" ∨ index = some "" then [.emptyBinding] else []) ++
      (checkNodes registry 0 body).map (.under .body) ++ checkFallback registry fallback

/-- The problems of some nodes, the first of which has the index `i`. -/
def checkNodes (registry : Registry) (i : Nat) : List Node → List Problem
  | [] => []
  | n :: ns => (checkNode registry n).map (.under (.node i)) ++ checkNodes registry (i + 1) ns

/-- The problems of some branches, the first of which has the index `i`. -/
def checkBranches (registry : Registry) (i : Nat) : List (Expr × List Node) → List Problem
  | [] => []
  | (condition, body) :: rest =>
    (problemsHere (checkExpr registry condition) ++ checkNodes registry 0 body).map
        (.under (.branch i)) ++
      checkBranches registry (i + 1) rest

/-- The problems of a fallback. -/
def checkFallback (registry : Registry) : Option (List Node) → List Problem
  | none => []
  | some ns => (checkNodes registry 0 ns).map (.under .fallback)

end

/-- The problems of a template. -/
def Template.check (template : Template) (registry : Registry) : List Problem :=
  checkNodes registry 0 template.nodes

end Stencil

import Stencil.Proofs.Source.Printing
import Stencil.Proofs.Tree.Parts
import Stencil.Template.Tree

/-!
# The form of a tree

Not every tree can be the result of reading a template. Reading makes the names of calls, and the
first segments of paths, names that are neither numerals nor constants; all other names are words,
possibly empty ones. Literals are simple values, texts are not empty, a conditional has a branch.
Two texts stand side by side only where one of them is the message for a tag that makes no sense:
everything between two tags is one text.

The definitions here look at one place of a tree; `Expr.Every` and `Template.Every` say that all
places are of this form.
-/

namespace Stencil

/-- Whether a value can be written as a literal. -/
def Value.isLiteral : Value → Bool
  | .null => true
  | .bool _ => true
  | .number x => x != .nan
  | .string _ => true
  | .array _ => false
  | .object _ => false

/-- Whether some segments form a path: one sign or two that begin a numeral without digits, or words
of which the first could name a call. -/
def isPath : List String → Bool
  | [] => false
  | first :: more =>
    (["-", ".", "-."].contains first && more.isEmpty) ||
      (isFirstName first && more.all Text.isWord)

/-- Whether an expression has the form of one that has been read, apart from those inside it. -/
def Expr.isFormed : Expr → Bool
  | .literal v => v.isLiteral
  | .path segments => isPath segments
  | .call name _ => isFirstName name
  | .pipe _ name _ => Text.isWord name

/-- All of an expression has the form of one that has been read. -/
def FormedExpr (e : Expr) : Prop :=
  e.Every fun e => e.isFormed = true

/-- Whether the message for a fault takes the place of a tag. -/
def Fault.marksTag : Fault → Bool
  | .missingAs => true
  | .tooDeep => true
  | .unknownBlock keyword => Text.isWord keyword
  | _ => false

/-- A text that takes the place of a tag. -/
def IsTagMessage (s : String) : Prop :=
  ∃ f : Fault, f.marksTag = true ∧ s = f.message

/-- Whether a node has the form of one that has been read, apart from what is inside it. -/
def Node.isFormed : Node → Bool
  | .text s => s != ""
  | .interpolation _ _ => true
  | .conditional branches _ => !branches.isEmpty
  | .loop _ item index _ _ => Text.isWord item && index.all Text.isWord

/-- Two nodes may stand side by side: of two texts, one takes the place of a tag. -/
def MayMeet : Node → Node → Prop
  | .text s, .text t => IsTagMessage s ∨ IsTagMessage t
  | _, _ => True

/-- Nodes side by side have the form of such that have been read. -/
structure FormedRegion (ns : List Node) : Prop where
  isFormed : ∀ n ∈ ns, n.isFormed = true
  mayMeet : ns.IsChain MayMeet

end Stencil

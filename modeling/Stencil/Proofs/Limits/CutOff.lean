import Mathlib.Tactic.Lemma
import Stencil.Evaluation.Check
import Stencil.Template.Block

/-!
# What the limits leave behind

Where a template goes deeper than its limits allow, a message takes the place of a part of it. A
block leaves a text, which the check knows, and so does a loop whose source was cut off before its
`as`. An expression leaves a literal, which looks like a string that the template itself could hold.
A tree in which there is such a text or such a literal is called cut; the check finds all the texts
(`checkNodes_cut`), and only the literals remain.
-/

namespace Stencil

mutual

/-- Whether a string literal in an expression is of some kind. -/
def Expr.anyLiteral (p : String → Bool) : Expr → Bool
  | .literal (.string s) => p s
  | .literal _ => false
  | .path _ => false
  | .call _ args => anyLiterals p args
  | .pipe input _ args => input.anyLiteral p || anyLiterals p args

/-- Whether a string literal in some expressions is of some kind. -/
def anyLiterals (p : String → Bool) : List Expr → Bool
  | [] => false
  | e :: es => e.anyLiteral p || anyLiterals p es

end

section
variable (text literal : String → Bool)

mutual

/-- Whether a text in a node is of one kind, or a string literal in it of another. -/
def Node.anyString : Node → Bool
  | .text s => text s
  | .interpolation e _ => e.anyLiteral literal
  | .conditional branches fallback => anyBranches branches || anyFallback fallback
  | .loop source _ _ body fallback =>
    source.anyLiteral literal || anyNodes body || anyFallback fallback

/-- Whether a text in some nodes is of one kind, or a string literal in them of another. -/
def anyNodes : List Node → Bool
  | [] => false
  | n :: ns => n.anyString || anyNodes ns

/-- Whether a text in the branches of a conditional is of one kind, or a string literal of another.
-/
def anyBranches : List (Expr × List Node) → Bool
  | [] => false
  | (condition, body) :: rest =>
    condition.anyLiteral literal || anyNodes body || anyBranches rest

/-- Whether a text in a fallback is of one kind, or a string literal in it of another. -/
def anyFallback : Option (List Node) → Bool
  | none => false
  | some ns => anyNodes ns

end

end

/-- Whether a string is the message for what is too deep. -/
def isTooDeep (s : String) : Bool :=
  s == Fault.tooDeep.message

/-- Whether a text is one that may stand where a block or the source of a loop was too deep. -/
def isCutText (s : String) : Bool :=
  s == Fault.tooDeep.message || s == Fault.missingAs.message

/-- Whether a string literal in a template is the message for what is too deep. -/
def Template.hasCutOff (template : Template) : Bool :=
  anyNodes (fun _ => false) isTooDeep template.nodes

section
variable {text literal : String → Bool}

/-- There is a text or literal of a kind in two lists of nodes if there is one in either. -/
lemma anyNodes_append (ns more : List Node) :
    anyNodes text literal (ns ++ more) =
      (anyNodes text literal ns || anyNodes text literal more) := by
  induction ns with
  | nil => rfl
  | cons n ns ih => rw [List.cons_append, anyNodes, ih, anyNodes, Bool.or_assoc]

end

/-- Texts that stand for what is too deep are known to the check. -/
lemma isCutText_of_not_isRecoveryText {s : String} (h : isRecoveryText s = false) :
    isCutText s = false := by
  simp only [isRecoveryText, Bool.or_eq_false_iff] at h
  rw [isCutText, h.1.1.2, h.1.1.1]
  rfl

section
variable {registry : Registry}

mutual

/-- A node without problems is cut only if it has a literal that stands for what is too deep. -/
theorem checkNode_cut {n : Node} (h : checkNode registry n = []) :
    n.anyString isCutText isTooDeep = n.anyString (fun _ => false) isTooDeep := by
  cases n with
  | text s =>
    rw [checkNode] at h
    cases hs : isRecoveryText s with
    | true => simp [hs, problemsHere] at h
    | false => exact isCutText_of_not_isRecoveryText hs
  | interpolation e raw => rfl
  | conditional branches fallback =>
    rw [checkNode, List.append_eq_nil_iff] at h
    rw [Node.anyString, Node.anyString, checkBranches_cut h.1, checkFallback_cut h.2]
  | loop source item index body fallback =>
    rw [checkNode, List.append_eq_nil_iff, List.append_eq_nil_iff, List.map_eq_nil_iff] at h
    rw [Node.anyString, Node.anyString, checkNodes_cut h.1.2, checkFallback_cut h.2]

/-- Nodes with a clean report are cut by literals only. -/
theorem checkNodes_cut {i : Nat} {ns : List Node} (h : checkNodes registry i ns = []) :
    anyNodes isCutText isTooDeep ns = anyNodes (fun _ => false) isTooDeep ns := by
  cases ns with
  | nil => rfl
  | cons n ns =>
    rw [checkNodes, List.append_eq_nil_iff, List.map_eq_nil_iff] at h
    rw [anyNodes, anyNodes, checkNode_cut h.1, checkNodes_cut h.2]

/-- Branches with a clean report are cut by literals only. -/
theorem checkBranches_cut {i : Nat} {branches : List (Expr × List Node)}
    (h : checkBranches registry i branches = []) :
    anyBranches isCutText isTooDeep branches = anyBranches (fun _ => false) isTooDeep branches := by
  cases branches with
  | nil => rfl
  | cons first rest =>
    obtain ⟨condition, body⟩ := first
    rw [checkBranches, List.append_eq_nil_iff, List.map_eq_nil_iff, List.append_eq_nil_iff] at h
    rw [anyBranches, anyBranches, checkNodes_cut h.1.2, checkBranches_cut h.2]

/-- A fallback with a clean report is cut by literals only. -/
theorem checkFallback_cut {fallback : Option (List Node)}
    (h : checkFallback registry fallback = []) :
    anyFallback isCutText isTooDeep fallback = anyFallback (fun _ => false) isTooDeep fallback := by
  cases fallback with
  | none => rfl
  | some ns =>
    rw [checkFallback, List.map_eq_nil_iff] at h
    rw [anyFallback, anyFallback, checkNodes_cut h]

end

end

end Stencil

import Mathlib.Tactic.Lemma
import Stencil.Evaluation.Scope
import Stencil.Template.Tree

/-!
# Names in a template

A path begins with a name. The item and the index of a loop bind names in the body of the loop, and
not in its source or its fallback; a name that a path begins with and no loop around binds is free,
and is looked up outside.

A renaming is a function on names. It reaches the free names only: inside the body of a loop, what
the loop binds keeps its name (`keepNames`). Renaming nothing leaves a tree as it is
(`renameNodes_id`).
-/

namespace Stencil

/-- The names that a loop binds in its body. -/
def loopNames (item : String) (index : Option String) : List String :=
  item :: index.toList

mutual

/-- The names that the paths of an expression begin with. -/
def Expr.heads : Expr → List String
  | .literal _ => []
  | .path segments => segments.head?.toList
  | .call _ args => headsOf args
  | .pipe input _ args => input.heads ++ headsOf args

/-- The names that the paths of some expressions begin with. -/
def headsOf : List Expr → List String
  | [] => []
  | e :: es => e.heads ++ headsOf es

end

mutual

/-- The names that paths of a node begin with and no loop around them binds. -/
def Node.free : Node → List String
  | .text _ => []
  | .interpolation e _ => e.heads
  | .conditional branches fallback => branchesFree branches ++ fallbackFree fallback
  | .loop source item index body fallback =>
    source.heads ++ (nodesFree body).filter (· ∉ loopNames item index) ++ fallbackFree fallback

/-- The free names of some nodes. -/
def nodesFree : List Node → List String
  | [] => []
  | n :: ns => n.free ++ nodesFree ns

/-- The free names of some branches. -/
def branchesFree : List (Expr × List Node) → List String
  | [] => []
  | (condition, body) :: rest => condition.heads ++ nodesFree body ++ branchesFree rest

/-- The free names of a fallback. -/
def fallbackFree : Option (List Node) → List String
  | none => []
  | some ns => nodesFree ns

end

/-- The free names of a template. -/
def Template.free (template : Template) : List String :=
  nodesFree template.nodes

mutual

/-- The names that the loops of a node bind. -/
def Node.bound : Node → List String
  | .text _ => []
  | .interpolation _ _ => []
  | .conditional branches fallback => branchesBound branches ++ fallbackBound fallback
  | .loop _ item index body fallback =>
    loopNames item index ++ nodesBound body ++ fallbackBound fallback

/-- The names that the loops of some nodes bind. -/
def nodesBound : List Node → List String
  | [] => []
  | n :: ns => n.bound ++ nodesBound ns

/-- The names that the loops of some branches bind. -/
def branchesBound : List (Expr × List Node) → List String
  | [] => []
  | (_, body) :: rest => nodesBound body ++ branchesBound rest

/-- The names that the loops of a fallback bind. -/
def fallbackBound : Option (List Node) → List String
  | none => []
  | some ns => nodesBound ns

end

/-- The renaming that puts one name in the place of another. -/
def replaceName (old new : String) : String → String :=
  fun name => if name = old then new else name

/-- The renaming that leaves some names as they are. -/
def keepNames (names : List String) (ρ : String → String) : String → String :=
  fun name => if name ∈ names then name else ρ name

mutual

/-- The expression with the first names of its paths renamed. -/
def Expr.rename (ρ : String → String) : Expr → Expr
  | .literal v => .literal v
  | .path segments => .path (segments.modifyHead ρ)
  | .call name args => .call name (renameExprs ρ args)
  | .pipe input name args => .pipe (input.rename ρ) name (renameExprs ρ args)

/-- Some expressions with the first names of their paths renamed. -/
def renameExprs (ρ : String → String) : List Expr → List Expr
  | [] => []
  | e :: es => e.rename ρ :: renameExprs ρ es

end

mutual

/-- The node with its free names renamed. Where an inner loop binds a name, its body is left as it
is as far as that name goes. -/
def Node.rename (ρ : String → String) : Node → Node
  | .text s => .text s
  | .interpolation e raw => .interpolation (e.rename ρ) raw
  | .conditional branches fallback =>
    .conditional (renameBranches ρ branches) (renameFallback ρ fallback)
  | .loop source item index body fallback =>
    .loop (source.rename ρ) item index (renameNodes (keepNames (loopNames item index) ρ) body)
      (renameFallback ρ fallback)

/-- Some nodes with their free names renamed. -/
def renameNodes (ρ : String → String) : List Node → List Node
  | [] => []
  | n :: ns => n.rename ρ :: renameNodes ρ ns

/-- Some branches with their free names renamed. -/
def renameBranches (ρ : String → String) : List (Expr × List Node) → List (Expr × List Node)
  | [] => []
  | (condition, body) :: rest =>
    (condition.rename ρ, renameNodes ρ body) :: renameBranches ρ rest

/-- A fallback with its free names renamed. -/
def renameFallback (ρ : String → String) : Option (List Node) → Option (List Node)
  | none => none
  | some ns => some (renameNodes ρ ns)

end

/-- A renaming that changes nothing leaves every name as it is. -/
lemma keepNames_id (names : List String) : keepNames names id = id :=
  funext fun _ => ite_self _

mutual

/-- Without a renaming an expression stays the same. -/
lemma Expr.rename_id (e : Expr) : e.rename id = e := by
  cases e with
  | literal v => rw [Expr.rename]
  | path segments => rw [Expr.rename, List.modifyHead_id, id]
  | call name args => rw [Expr.rename, renameExprs_id args]
  | pipe input name args => rw [Expr.rename, Expr.rename_id input, renameExprs_id args]

/-- Without a renaming some expressions stay the same. -/
lemma renameExprs_id (es : List Expr) : renameExprs id es = es := by
  cases es with
  | nil => rw [renameExprs]
  | cons e es => rw [renameExprs, Expr.rename_id e, renameExprs_id es]

end

mutual

/-- Without a renaming a node stays the same. -/
lemma Node.rename_id (n : Node) : n.rename id = n := by
  cases n with
  | text s => rw [Node.rename]
  | interpolation e raw => rw [Node.rename, Expr.rename_id]
  | conditional branches fallback =>
    rw [Node.rename, renameBranches_id branches, renameFallback_id fallback]
  | loop source item index body fallback =>
    rw [Node.rename, keepNames_id, Expr.rename_id, renameNodes_id body, renameFallback_id fallback]

/-- Without a renaming some nodes stay the same. -/
lemma renameNodes_id (ns : List Node) : renameNodes id ns = ns := by
  cases ns with
  | nil => rw [renameNodes]
  | cons n ns => rw [renameNodes, Node.rename_id n, renameNodes_id ns]

/-- Without a renaming some branches stay the same. -/
lemma renameBranches_id (branches : List (Expr × List Node)) :
    renameBranches id branches = branches := by
  cases branches with
  | nil => rw [renameBranches]
  | cons branch rest =>
    obtain ⟨condition, body⟩ := branch
    rw [renameBranches, Expr.rename_id, renameNodes_id body, renameBranches_id rest]

/-- Without a renaming a fallback stays the same. -/
lemma renameFallback_id (fallback : Option (List Node)) :
    renameFallback id fallback = fallback := by
  cases fallback with
  | none => rw [renameFallback]
  | some ns => rw [renameFallback, renameNodes_id ns]

end

/-- A round of a loop gives values to the names that the loop binds, and to no others. -/
lemma Frame.get?_eq_none_iff {item : String} {value : Value} {index : Option String} {i : Nat}
    {name : String} :
    Frame.get? ⟨item, value, index.map fun index => (index, i)⟩ name = none ↔
      name ∉ loopNames item index := by
  cases index with
  | none => simp [Frame.get?, loopNames, eq_comm]
  | some index =>
    by_cases hindex : index = name
    · simp [Frame.get?, loopNames, hindex]
    · simp [Frame.get?, loopNames, hindex, Ne.symm hindex, eq_comm]

/-- The item is found under its name, unless the index has that name too. -/
lemma Frame.get?_item {item : String} {value : Value} {index : Option String} {i : Nat}
    (h : index ≠ some item) :
    Frame.get? ⟨item, value, index.map fun index => (index, i)⟩ item = some value := by
  cases index with
  | none => simp [Frame.get?]
  | some index => simp [Frame.get?, mt (congrArg some) h]

/-- What is found under another name has nothing to do with the item. -/
lemma Frame.get?_of_ne_item {item other : String} {value w : Value} {index : Option (String × Nat)}
    {name : String} (h : name ≠ item) (hother : name ≠ other) :
    Frame.get? ⟨item, value, index⟩ name = Frame.get? ⟨other, w, index⟩ name := by
  simp [Frame.get?, Ne.symm h, Ne.symm hother]

end Stencil

import Mathlib.Tactic.Ring
import Stencil.Proofs.Tree.ReadTemplate

/-!
# How high trees are

Whatever walks over a tree goes as deep as the tree is high. A template may be of any length, but
the limit on depth bounds how high its tree is. Blocks stand inside one another at most as deep as
the limit says. An expression may be higher than the limit, since the levels of an argument are free
again when a pipe is put around it: with `n` levels, an argument read with `n - 1` levels can have a
call and `n - 1` pipes around it, and an argument of that argument likewise.

This adds up to `n * (n + 1) / 2` (`room`), counted for what is not cut off. The literal in the
place of what is cut off is one higher, but it is the last thing read in its tag, so only the calls
and pipes that are open can stand around it (`height_invariant`).
-/

namespace Stencil

namespace Expr

mutual

/-- The height of an expression: one for a literal or a path, and for a call or a pipe one more than
that of its highest argument or input. -/
def height : Expr → Nat
  | .literal _ => 1
  | .path _ => 1
  | .call _ args => 1 + heightOf args
  | .pipe input _ args => 1 + max input.height (heightOf args)

/-- The height of the highest of some expressions. -/
def heightOf : List Expr → Nat
  | [] => 0
  | e :: es => max e.height (heightOf es)

end

/-- Some expressions are as low as the highest of them. -/
lemma heightOf_le_iff {n : Nat} {es : List Expr} :
    heightOf es ≤ n ↔ ∀ e ∈ es, e.height ≤ n := by
  induction es with
  | nil => simp [heightOf]
  | cons e es ih => rw [heightOf, Nat.max_le, ih, List.forall_mem_cons]

mutual

/-- No part of an expression is higher than the whole. -/
theorem every_height_le {n : Nat} {e : Expr} (h : e.height ≤ n) :
    e.Every fun e => e.height ≤ n := by
  cases e with
  | literal v => exact .literal h
  | path segments => exact .path h
  | call name args =>
    have hargs : heightOf args ≤ n := by
      rw [height] at h
      omega
    exact .call h (every_heightOf_le hargs)
  | pipe input name args =>
    have hparts : input.height ≤ n ∧ heightOf args ≤ n := by
      rw [height] at h
      omega
    exact .pipe h (every_height_le hparts.1) (every_heightOf_le hparts.2)

/-- All parts of some expressions are as low as the highest of them. -/
theorem every_heightOf_le {n : Nat} {es : List Expr} (h : heightOf es ≤ n) :
    ∀ e ∈ es, e.Every fun e => e.height ≤ n := by
  cases es with
  | nil => exact nofun
  | cons e es =>
    rw [heightOf, Nat.max_le] at h
    exact List.forall_mem_cons.mpr ⟨every_height_le h.1, every_heightOf_le h.2⟩

end

/-- The height that an expression can have that was read with some levels and not cut off: that of
an argument, a level for a call around it, and one for each pipe behind that. -/
def room : Nat → Nat
  | 0 => 0
  | levels + 1 => room levels + 1 + levels

/-- With more levels there is no less room. -/
lemma room_mono {m n : Nat} (h : m ≤ n) : room m ≤ room n := by
  induction h with
  | refl => exact Nat.le_refl _
  | step _ ih =>
    rw [room]
    omega

/-- The room is half the product of the levels and one more. -/
lemma room_eq (n : Nat) : room n = n * (n + 1) / 2 := by
  have hdouble : n * (n + 1) = 2 * room n := by
    induction n with
    | zero => rfl
    | succ n ih =>
      calc (n + 1) * (n + 1 + 1) = n * (n + 1) + 2 * (n + 1) := by ring
        _ = 2 * room (n + 1) := by
          rw [ih, room]
          ring
  rw [hdouble, Nat.mul_div_cancel_left _ (by decide)]

/-- A call or a pipe takes one level of the room, and what was cut off has one level more. As long
as an expression is only begun there is room for the pipes that may still come. -/
lemma height_invariant :
    CutInvariant (fun levels e => e.height ≤ room levels)
      (fun levels e => e.height ≤ max (levels + 1) (room levels))
      fun levels left e => left < levels ∧ e.height + left ≤ room levels where
  cutOff levels := by
    rw [height]
    omega
  literal {left v} _ := by
    rw [height, room]
    omega
  path {left segments} _ := by
    rw [height, room]
    omega
  call {left name args} _ hargs := by
    have hheight := heightOf_le_iff.mpr hargs
    rw [height, room]
    omega
  cutCall {left name args} _ hargs := by
    have hheight := heightOf_le_iff.mpr hargs
    rw [height, room]
    omega
  pipe {levels left input name args} hinput _ hargs := by
    have hheight := heightOf_le_iff.mpr hargs
    have hroom := room_mono hinput.1
    rw [room, room] at hroom
    rw [height]
    omega
  cutPipe {levels left input name args} hinput _ hargs := by
    have hheight := heightOf_le_iff.mpr hargs
    have hroom := room_mono hinput.1
    rw [room, room] at hroom
    rw [height]
    omega
  finish h := by omega
  weaken h := by omega

end Expr

mutual

/-- How deep blocks stand inside one another in a node. -/
def Node.blockDepth : Node → Nat
  | .text _ => 0
  | .interpolation _ _ => 0
  | .conditional branches fallback => 1 + max (branchesDepth branches) (fallbackDepth fallback)
  | .loop _ _ _ body fallback => 1 + max (nodesDepth body) (fallbackDepth fallback)

/-- How deep blocks stand inside one another in some nodes. -/
def nodesDepth : List Node → Nat
  | [] => 0
  | n :: ns => max n.blockDepth (nodesDepth ns)

/-- How deep the blocks of some branches lie inside one another. -/
def branchesDepth : List (Expr × List Node) → Nat
  | [] => 0
  | (_, body) :: rest => max (nodesDepth body) (branchesDepth rest)

/-- How deep the blocks of a fallback lie inside one another. -/
def fallbackDepth : Option (List Node) → Nat
  | none => 0
  | some ns => nodesDepth ns

end

section
variable {m : Nat}

/-- Blocks in some nodes lie no deeper than in each of them. -/
lemma nodesDepth_le_iff {ns : List Node} : nodesDepth ns ≤ m ↔ ∀ n ∈ ns, n.blockDepth ≤ m := by
  induction ns with
  | nil => simp [nodesDepth]
  | cons n ns ih => rw [nodesDepth, Nat.max_le, ih, List.forall_mem_cons]

/-- Blocks in some branches lie no deeper than in the body of each of them. -/
lemma branchesDepth_le_iff {branches : List (Expr × List Node)} :
    branchesDepth branches ≤ m ↔ ∀ b ∈ branches, nodesDepth b.2 ≤ m := by
  induction branches with
  | nil => simp [branchesDepth]
  | cons b rest ih => rw [branchesDepth, Nat.max_le, ih, List.forall_mem_cons]

/-- Blocks in a fallback lie no deeper than in its nodes. -/
lemma fallbackDepth_le_iff {fallback : Option (List Node)} :
    fallbackDepth fallback ≤ m ↔ ∀ ns ∈ fallback, nodesDepth ns ≤ m := by
  cases fallback with
  | none => simp [fallbackDepth]
  | some ns => simp [fallbackDepth]

end

/-- A block takes one level, and is only read where there is one. -/
lemma TagNode.blockDepth_le {expr : Expr → Prop} {levels : Nat} {n : Node}
    (h : TagNode expr (inside (fun levels ns => nodesDepth ns ≤ levels) levels) n) :
    n.blockDepth ≤ levels := by
  cases levels with
  | zero =>
    cases h with
    | interpolation _ => exact Nat.le_refl 0
    | message _ => exact Nat.le_refl 0
    | conditional hne _ hbodies _ =>
      obtain ⟨b, hb⟩ := List.exists_mem_of_ne_nil _ hne
      exact (hbodies b hb).elim
    | loop _ _ _ hbody _ => exact hbody.elim
  | succ levels =>
    cases h with
    | interpolation _ => exact Nat.zero_le _
    | message _ => exact Nat.zero_le _
    | conditional _ _ hbodies hfallback =>
      have hbranches := branchesDepth_le_iff.mpr hbodies
      have hother := fallbackDepth_le_iff.mpr hfallback
      rw [Node.blockDepth]
      omega
    | loop _ _ _ hbody hfallback =>
      have hinner : nodesDepth _ ≤ levels := hbody
      have hother := fallbackDepth_le_iff.mpr hfallback
      rw [Node.blockDepth]
      omega

/-- Blocks that have been read with some levels lie no deeper than that. -/
lemma Laid.nodesDepth_le {expr : Expr → Prop} {levels : Nat} {ns : List Node}
    (h : Laid (TagNode expr (inside (fun levels ns => nodesDepth ns ≤ levels) levels)) ns) :
    nodesDepth ns ≤ levels :=
  nodesDepth_le_iff.mpr (h.forall_mem (fun _ _ => Nat.zero_le _) fun _ hn => hn.blockDepth_le)

namespace Template

/-- However long a template is, the limit on depth bounds the height of its tree: that of its blocks
by the limit itself, and that of its expressions by about half the square of it. -/
theorem parse_height (limits : Limits) (s : String) :
    nodesDepth (parse limits s).nodes ≤ limits.depth ∧
      (parse limits s).Every (fun _ => True) fun e => e.Every fun e =>
        e.height ≤ max (limits.depth + 1) (limits.depth * (limits.depth + 1) / 2) := by
  have hheight : (Reader.head limits.depth).Yields fun e =>
      e.height ≤ max (limits.depth + 1) (Expr.room limits.depth) := by
    refine Expr.height_invariant.head_yields ?_
    rw [Expr.height]
    omega
  refine ⟨parse_induction hheight (fun _ _ h => h.nodesDepth_le) (Nat.zero_le _) s, ?_⟩
  rw [← Expr.room_eq]
  exact parse_every (hheight.mono fun _ => Expr.every_height_le) (fun _ _ _ => trivial) trivial s

/-- With three levels there is an expression of height six. -/
example : (parse ⟨3, none⟩ "{{ f(g(a) | h) | i | j }}").nodes.map (fun
    | .interpolation e _ => e.height
    | _ => 0) = [6] := by
  decide +kernel

end Template

end Stencil

import Mathlib.Tactic.Lemma
import Stencil.Evaluation.Check

/-!
# The calls of a template

All calls of a template, direct and through pipes, with the way to their place, in the order of the
check. Main statement: the check lists exactly the flaws of these calls, one after another, beside
the problems that are not about calls (`checkNodes_calls`).
-/

namespace Stencil

mutual

/-- The calls in an expression. -/
def Expr.calls : Expr → List Call
  | .literal _ => []
  | .path _ => []
  | .call name args => .direct name args :: callsOf args
  | .pipe input name args => input.calls ++ .piped input name args :: callsOf args

/-- The calls in some expressions. -/
def callsOf : List Expr → List Call
  | [] => []
  | e :: es => e.calls ++ callsOf es

end

/-- A call of a template and the way to its node. -/
structure Occurrence where
  path : List Step
  call : Call

/-- The same occurrence seen from one step further out. -/
def Occurrence.under (step : Step) (o : Occurrence) : Occurrence :=
  { o with path := step :: o.path }

/-- The calls of an expression as occurrences at the place where it stands. -/
def callsHere (e : Expr) : List Occurrence :=
  e.calls.map fun call => ⟨[], call⟩

mutual

/-- The calls of a node. -/
def nodeCalls : Node → List Occurrence
  | .text _ => []
  | .interpolation e _ => callsHere e
  | .conditional branches fallback => branchCalls 0 branches ++ fallbackCalls fallback
  | .loop source _ _ body fallback =>
    callsHere source ++ (nodesCalls 0 body).map (.under .body) ++ fallbackCalls fallback

/-- The calls of some nodes, the first of which has the index `i`. -/
def nodesCalls (i : Nat) : List Node → List Occurrence
  | [] => []
  | n :: ns => (nodeCalls n).map (.under (.node i)) ++ nodesCalls (i + 1) ns

/-- The calls of some branches, the first of which has the index `i`. -/
def branchCalls (i : Nat) : List (Expr × List Node) → List Occurrence
  | [] => []
  | (condition, body) :: rest =>
    (callsHere condition ++ nodesCalls 0 body).map (.under (.branch i)) ++ branchCalls (i + 1) rest

/-- The calls of a fallback. -/
def fallbackCalls : Option (List Node) → List Occurrence
  | none => []
  | some ns => (nodesCalls 0 ns).map (.under .fallback)

end

/-- The calls of a template. -/
def Template.calls (template : Template) : List Occurrence :=
  nodesCalls 0 template.nodes

section
variable {met : Call → Prop}

/-- What is said of the calls of an expression where it stands is said of its calls. -/
lemma forall_callsHere {e : Expr} :
    (∀ o ∈ callsHere e, met o.call) ↔ ∀ c ∈ e.calls, met c := by
  rw [callsHere, List.forall_mem_map]

/-- What is said of calls does not depend on the way to their places. -/
lemma forall_map_under {step : Step} {os : List Occurrence} :
    (∀ o ∈ os.map (Occurrence.under step), met o.call) ↔ ∀ o ∈ os, met o.call :=
  List.forall_mem_map

end

/-- The flaws that are about a call. -/
def Flaw.ofCall : Flaw → Bool
  | .unknownFunction _ => true
  | .tooFewArguments _ _ _ => true
  | .malformedTag _ => false
  | .emptyBinding => false

/-- The problems that are about a call. -/
def callProblems (problems : List Problem) : List Problem :=
  problems.filter fun p => p.flaw.ofCall

/-- The flaws of an occurrence as problems at its place. -/
def Occurrence.problems (registry : Registry) (o : Occurrence) : List Problem :=
  (registry.flaws o.call.name o.call.supplied).map fun flaw => ⟨o.path, flaw⟩

section
variable {registry : Registry}

/-- The flaws of a call are about a call. -/
lemma ofCall_of_mem_flaws {name : String} {supplied : Nat} {flaw : Flaw}
    (h : flaw ∈ registry.flaws name supplied) : flaw.ofCall = true := by
  unfold Registry.flaws at h
  split at h
  · cases List.mem_singleton.mp h
    rfl
  · split at h
    · cases List.mem_singleton.mp h
      rfl
    · cases h
  · cases h

/-- A call is flawed for want of a function exactly if there is none of its name. -/
lemma unknownFunction_mem_flaws {name other : String} {supplied : Nat} :
    Flaw.unknownFunction other ∈ registry.flaws name supplied ↔
      other = name ∧ registry.get? name = none := by
  unfold Registry.flaws
  cases registry.get? name with
  | none => simp
  | some f =>
    cases f with
    | builtin b =>
      dsimp only
      split
      · simp
      · simp
    | host run => simp

/-- A call is flawed for want of arguments exactly if its name is that of a built-in that needs
more. -/
lemma tooFewArguments_mem_flaws {name other : String} {needed count supplied : Nat} :
    Flaw.tooFewArguments other needed count ∈ registry.flaws name supplied ↔
      other = name ∧ count = supplied ∧
        ∃ b, registry.get? name = some (.builtin b) ∧ needed = b.minArgs ∧
          supplied < b.minArgs := by
  unfold Registry.flaws
  cases registry.get? name with
  | none => simp
  | some f =>
    cases f with
    | builtin b =>
      dsimp only
      split
      · case isTrue h =>
        simp only [List.mem_singleton, Flaw.tooFewArguments.injEq, Option.some.injEq,
          Function.builtin.injEq, exists_eq_left', h, and_true]
        rw [and_comm (a := needed = b.minArgs)]
      · case isFalse h => simp [h]
    | host run => simp

mutual

/-- The flaws of an expression are those of its calls. -/
theorem checkExpr_calls (e : Expr) :
    checkExpr registry e = e.calls.flatMap fun c => registry.flaws c.name c.supplied := by
  cases e with
  | literal v => simp [checkExpr, Expr.calls]
  | path segments => simp [checkExpr, Expr.calls]
  | call name args =>
    simp [checkExpr, Expr.calls, Call.name, Call.supplied, checkExprs_calls args]
  | pipe input name args =>
    simp [checkExpr, Expr.calls, Call.name, Call.supplied, checkExpr_calls input,
      checkExprs_calls args]

/-- The flaws of some expressions are those of their calls. -/
theorem checkExprs_calls (es : List Expr) :
    checkExprs registry es = (callsOf es).flatMap fun c => registry.flaws c.name c.supplied := by
  cases es with
  | nil => simp [checkExprs, callsOf]
  | cons e es => simp [checkExprs, callsOf, checkExpr_calls e, checkExprs_calls es]

end

/-- Which problems are about a call does not depend on the way to them. -/
lemma callProblems_map_under (step : Step) (ps : List Problem) :
    callProblems (ps.map (.under step)) = (callProblems ps).map (.under step) := by
  simp [callProblems, List.filter_map, Function.comp_def, Problem.under]

/-- The problems about calls in two lists are those of each. -/
lemma callProblems_append (ps qs : List Problem) :
    callProblems (ps ++ qs) = callProblems ps ++ callProblems qs :=
  List.filter_append ps qs

/-- The problems of calls lie behind the steps to the calls. -/
lemma problems_map_under (step : Step) (os : List Occurrence) :
    (os.map (.under step)).flatMap (Occurrence.problems registry) =
      (os.flatMap (Occurrence.problems registry)).map (.under step) := by
  induction os with
  | nil => rfl
  | cons o os ih =>
    simp [ih, Occurrence.problems, Occurrence.under, Problem.under, Function.comp_def]

/-- All flaws of an expression are about calls. -/
lemma callProblems_checkExpr (e : Expr) :
    callProblems (problemsHere (checkExpr registry e)) =
      (callsHere e).flatMap (Occurrence.problems registry) := by
  rw [checkExpr_calls, callsHere]
  induction e.calls with
  | nil => rfl
  | cons c cs ih =>
    have hc : callProblems (problemsHere (registry.flaws c.name c.supplied)) =
        problemsHere (registry.flaws c.name c.supplied) := by
      apply List.filter_eq_self.mpr
      intro p hp
      obtain ⟨flaw, hflaw, rfl⟩ := List.mem_map.mp hp
      exact ofCall_of_mem_flaws hflaw
    rw [List.flatMap_cons, problemsHere, List.map_append, callProblems_append]
    rw [problemsHere] at hc ih
    rw [hc, ih]
    rfl

mutual

/-- Of a node, the check lists exactly the problems of its calls beside those not about calls. -/
theorem checkNode_calls (n : Node) :
    callProblems (checkNode registry n) = (nodeCalls n).flatMap (Occurrence.problems registry) := by
  cases n with
  | text s =>
    rw [checkNode, nodeCalls]
    split
    · rfl
    · rfl
  | interpolation e raw => rw [checkNode, nodeCalls, callProblems_checkExpr]
  | conditional branches fallback =>
    rw [checkNode, nodeCalls, callProblems_append, List.flatMap_append, checkBranches_calls,
      checkFallback_calls]
  | loop source item index body fallback =>
    -- an empty name is a problem, but not one of a call
    have hbinding : callProblems
        (problemsHere (if item = "" ∨ index = some "" then [.emptyBinding] else [])) = [] := by
      split
      · rfl
      · rfl
    rw [checkNode, nodeCalls, callProblems_append, callProblems_append, callProblems_append,
      callProblems_checkExpr, hbinding, callProblems_map_under, checkNodes_calls 0 body,
      checkFallback_calls, List.append_nil, List.flatMap_append, List.flatMap_append,
      problems_map_under]

/-- Of some nodes, the check lists exactly the problems of their calls beside those not about calls.
-/
theorem checkNodes_calls (i : Nat) (ns : List Node) :
    callProblems (checkNodes registry i ns) =
      (nodesCalls i ns).flatMap (Occurrence.problems registry) := by
  cases ns with
  | nil =>
    rw [checkNodes, nodesCalls]
    rfl
  | cons n ns =>
    rw [checkNodes, nodesCalls, callProblems_append, callProblems_map_under, checkNode_calls n,
      checkNodes_calls (i + 1) ns, List.flatMap_append, problems_map_under]

/-- Of some branches, the check lists exactly the problems of their calls beside those not about
calls. -/
theorem checkBranches_calls (i : Nat) (branches : List (Expr × List Node)) :
    callProblems (checkBranches registry i branches) =
      (branchCalls i branches).flatMap (Occurrence.problems registry) := by
  cases branches with
  | nil =>
    rw [checkBranches, branchCalls]
    rfl
  | cons branch rest =>
    obtain ⟨condition, body⟩ := branch
    rw [checkBranches, branchCalls, callProblems_append, callProblems_map_under,
      callProblems_append, callProblems_checkExpr, checkNodes_calls 0 body,
      checkBranches_calls (i + 1) rest, List.flatMap_append, problems_map_under,
      List.flatMap_append]

/-- Of a fallback, the check lists exactly the problems of its calls beside those not about calls.
-/
theorem checkFallback_calls (fallback : Option (List Node)) :
    callProblems (checkFallback registry fallback) =
      (fallbackCalls fallback).flatMap (Occurrence.problems registry) := by
  cases fallback with
  | none =>
    rw [checkFallback, fallbackCalls]
    rfl
  | some ns =>
    rw [checkFallback, fallbackCalls, callProblems_map_under, checkNodes_calls 0 ns,
      problems_map_under]

end

end

end Stencil

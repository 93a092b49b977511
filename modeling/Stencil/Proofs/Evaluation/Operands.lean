import Stencil.Evaluation.Evaluate
import Stencil.Proofs.Checking.Calls

/-!
# The operands that are evaluated

A built-in gets its operands unevaluated and decides itself which of them to evaluate: `and` and
`or` stop at the operand that settles the result, `default` takes its second operand only in the
place of the first, and no built-in touches an operand beyond those that it knows
(`Builtin.evaluated`). An operand may call functions of the host, so one that is evaluated twice,
too late or without need shows in the trace.

Main statement: the host calls of a call are those of the operands that are evaluated, in their
order and each once; a function of the host evaluates all of them and is then called with their
values (`calls_evaluate`). The trace of a built-in is read off its definition one operand at a time:
what a built-in evaluates is a front part of its operands, and each further one appends its calls
(`calls_take_succ`).
-/

namespace Stencil

/-- The items up to the first one that passes a test, and with it. -/
def upToFirst {α : Type} (test : α → Bool) : List α → List α
  | [] => []
  | x :: xs => if test x then [x] else x :: upToFirst test xs

/-- What stands up to the first hit in a mapped list is the image of what stands up to it in the
list. -/
lemma upToFirst_map {α β : Type} (test : β → Bool) (f : α → β) (xs : List α) :
    upToFirst test (xs.map f) = (upToFirst (fun x => test (f x)) xs).map f := by
  induction xs with
  | nil => rfl
  | cons x xs ih =>
    rw [List.map_cons, upToFirst, upToFirst, ih]
    split
    · rfl
    · rfl

namespace Builtin

/-- The operands that a built-in evaluates, if `truthy` tells of each whether it counts as true. -/
def evaluated {α : Type} (b : Builtin) (truthy : α → Bool) (args : List α) : List α :=
  match b with
  | and => upToFirst (fun x => !truthy x) args
  | or => upToFirst truthy args
  | default => upToFirst truthy (args.take 2)
  | truncate => args.take 3
  | b => args.take b.minArgs

section
variable (args : List (Traced Value))

/-- One more operand appends its host calls; one that is missing has none. -/
lemma calls_take_succ (n : Nat) :
    (args.take (n + 1)).flatMap Traced.calls =
      (args.take n).flatMap Traced.calls ++ (operand args n).calls := by
  have hoperand : (operand args n).calls = args[n]?.toList.flatMap Traced.calls := by
    rw [operand, List.getD_eq_getElem?_getD]
    cases args[n]? with
    | none => rfl
    | some x => exact (List.flatMap_singleton Traced.calls x).symm
  rw [List.take_add_one, List.flatMap_append, hoperand]

/-- The search for an operand ends with the first one that passes the test. -/
lemma calls_firstWhere (test : Value → Bool) :
    (firstWhere test args).calls =
      (upToFirst (fun x => test x.value) args).flatMap Traced.calls := by
  fun_induction firstWhere test args with
  | case1 => rfl
  | case2 x =>
    rw [upToFirst, upToFirst, ite_self, List.flatMap_singleton]
  | case3 x y rest ih =>
    rw [Traced.calls_bind, upToFirst]
    cases test x.value with
    | true => simp
    | false =>
      rw [if_neg Bool.false_ne_true, if_neg Bool.false_ne_true, List.flatMap_cons, ih]

/-- A missing operand has no host calls. -/
lemma calls_operand_of_length_le {n : Nat} (h : args.length ≤ n) : (operand args n).calls = [] := by
  rw [operand, List.getD_eq_getElem?_getD, List.getElem?_eq_none h]
  rfl

/-- The second operand of `default` stands in for the first just as that of `or` does. -/
lemma calls_default :
    (default.run args).calls = (firstWhere Value.isTruthy (args.take 2)).calls := by
  match args with
  | [] => rfl
  | [x] =>
    change x.calls ++ (if x.value.isTruthy then pure x.value else pure .null : Traced Value).calls =
      x.calls
    split
    · exact List.append_nil _
    · exact List.append_nil _
  | x :: y :: rest => rfl

/-- The host calls of a built-in are those of the operands that it evaluates. -/
theorem calls_run (b : Builtin) :
    (b.run args).calls =
      (b.evaluated (fun x => x.value.isTruthy) args).flatMap Traced.calls := by
  cases b with
  | and => exact calls_firstWhere args fun v => !v.isTruthy
  | or => exact calls_firstWhere args Value.isTruthy
  | default => exact (calls_default args).trans (calls_firstWhere _ Value.isTruthy)
  | truncate =>
    by_cases hsuffix : 2 < args.length
    · simp [run, evaluated, textOperand, numberOperand, calls_take_succ, hsuffix]
    · have hmissing := calls_operand_of_length_le args (Nat.not_lt.mp hsuffix)
      simp [run, evaluated, textOperand, numberOperand, calls_take_succ, hsuffix, hmissing]
  | equal | unequal | greater | less | greaterOrEqual | lessOrEqual =>
    simp [run, evaluated, minArgs, compare, numberOperand, calls_take_succ]
  | replace | limit | join =>
    simp [run, evaluated, minArgs, textOperand, numberOperand, calls_take_succ]
  | not | lowercase | uppercase | trim | first | last | length =>
    simp [run, evaluated, minArgs, textOperand, calls_take_succ]

end

/-- Which operands are evaluated depends only on what counts as true of them. -/
lemma evaluated_map {α β : Type} (b : Builtin) (truthy : β → Bool) (f : α → β) (args : List α) :
    b.evaluated truthy (args.map f) = (b.evaluated (fun x => truthy (f x)) args).map f := by
  cases b with
  | and | or => exact upToFirst_map _ f args
  | default => rw [evaluated, evaluated, ← List.map_take, upToFirst_map]
  | _ => exact List.map_take.symm

end Builtin

/-- The host calls of a call are those of the operands that it evaluates, each once and from left to
right. If there is no such function or it has too few operands, none is evaluated. A built-in
evaluates those that it needs. A function of the host evaluates all of them, and its own call with
their values comes last. -/
theorem calls_evaluate (registry : Registry) (scope : Scope) (c : Call) :
    (evaluate registry scope c.expr).calls =
      match registry.get? c.name with
      | none => []
      | some (.builtin b) =>
        if c.supplied < b.minArgs then []
        else
          (b.evaluated (fun e => (evaluate registry scope e).value.isTruthy) c.operands).flatMap
            fun e => (evaluate registry scope e).calls
      | some (.host _) =>
        (c.operands.flatMap fun e => (evaluate registry scope e).calls) ++
          [⟨c.name, c.operands.map fun e => (evaluate registry scope e).value⟩] := by
  rw [evaluate_expr, Registry.call_eq]
  cases registry.get? c.name with
  | none => rfl
  | some f =>
    cases f with
    | builtin b =>
      dsimp only
      rw [List.length_map, c.length_operands]
      split
      · rfl
      · rw [b.calls_run, b.evaluated_map, List.flatMap_map]
    | host run =>
      dsimp only
      rw [Traced.calls_bind, Traced.calls_bind, Traced.calls_sequence, Traced.value_sequence,
        List.flatMap_map, List.map_map]
      rfl

end Stencil

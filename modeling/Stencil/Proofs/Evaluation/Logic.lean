import Mathlib.Tactic.Lemma
import Stencil.Evaluation.Evaluate
import Stencil.Proofs.Registry.Content

/-!
# The algebra of logic

The built-ins for logic give back operands and not truth values, and leave the rest of them alone
once the result is settled. They still obey the laws of logic, with the host calls of their
operands: the laws of De Morgan, nesting at the end, and `default` as `or` for two.

All of them are about one search for an operand (`Builtin.firstWhere`). A function can be put on
what is found or on each operand before it is looked at, if the test is changed with it
(`map_firstWhere`); and a search may go on in another one in the place of the last operand
(`firstWhere_nested`). Both hold in every monad, so they are laws of values and host calls at once.
-/

namespace Stencil

namespace Builtin

section
variable {m : Type → Type} [Monad m] {test : Value → Bool} {xs : List (m Value)}

/-- A search in the place of the last operand is one search. -/
lemma firstWhere_nested (x : m Value) (h : xs ≠ []) :
    firstWhere test [x, firstWhere test xs] = firstWhere test (x :: xs) := by
  cases xs with
  | nil => contradiction
  | cons y rest => rfl

/-- The second operand of `default` stands in for the first where the search for a true one goes on.
-/
lemma run_default (x y : m Value) : default.run [x, y] = firstWhere Value.isTruthy [x, y] :=
  rfl

variable [LawfulMonad m]

/-- What is found is changed like each of the operands, if the test takes no notice. -/
lemma map_firstWhere (f : Value → Value) {testAfter : Value → Bool}
    (htest : ∀ v, testAfter (f v) = test v) (h : xs ≠ []) :
    f <$> firstWhere test xs = firstWhere testAfter (xs.map (f <$> ·)) := by
  fun_induction firstWhere test xs with
  | case1 => contradiction
  | case2 x => rfl
  | case3 x y rest ih =>
    -- both searches stop at the same operands, since the tests agree on each of them
    rw [map_bind, List.map_cons, List.map_cons, firstWhere, bind_map_left]
    refine bind_congr fun v => ?_
    rw [htest]
    cases test v with
    | true => exact map_pure f v
    | false => exact ih (List.cons_ne_nil y rest)

/-- The opposite of what is found is what is found of the opposites, by the opposite test. -/
lemma run_not_firstWhere {testAfter : Value → Bool}
    (htest : ∀ v, testAfter (.bool !v.isTruthy) = test v) (h : xs ≠ []) :
    not.run [firstWhere test xs] = firstWhere testAfter (xs.map fun x => not.run [x]) := by
  have hnot (x : m Value) : not.run [x] = (fun v => .bool !v.isTruthy) <$> x :=
    (map_eq_pure_bind _ x).symm
  simp only [hnot]
  exact map_firstWhere _ htest h

end

/-- A built-in looks for an operand that passes a test. -/
structure Searches (b : Builtin) (test : Value → Bool) : Prop where
  minArgs : b.minArgs = 1
  run (xs : List (Traced Value)) : b.run xs = firstWhere test xs

/-- `and` looks for an operand that is not truthy. -/
lemma searches_and : and.Searches fun v => !v.isTruthy :=
  ⟨rfl, fun _ => rfl⟩

/-- `or` looks for an operand that is truthy. -/
lemma searches_or : or.Searches Value.isTruthy :=
  ⟨rfl, fun _ => rfl⟩

end Builtin

namespace Registry

/-- A registry has a built-in under its name. -/
def Keeps (registry : Registry) (b : Builtin) : Prop :=
  registry.get? b.name = some (.builtin b)

/-- The standard registry has each built-in under its name. -/
lemma keeps_standard (b : Builtin) : standard.Keeps b := by
  rw [Keeps, get?_standard]
  cases b with
  | _ => rfl

/-- Registrations of other names leave a built-in in its place. -/
lemma Keeps.after {registry : Registry} {b : Builtin} (h : registry.Keeps b)
    {calls : List Registration} (hcalls : ∀ c ∈ calls, c.name ≠ b.name) :
    (registry.after calls).Keeps b :=
  (get?_after_of_ne hcalls).trans h

end Registry

section
variable {registry : Registry} (scope : Scope) {es : List Expr}

/-- A call with operands enough is a run of the built-in under its name. -/
lemma Registry.Keeps.evaluate_eq {b : Builtin} (h : registry.Keeps b)
    (hes : b.minArgs ≤ es.length) :
    evaluate registry scope (.call b.name es) = b.run (es.map (evaluate registry scope)) := by
  rw [evaluate_call, operands_eq_map, Registry.call_eq, h]
  dsimp only
  rw [List.length_map, if_neg (Nat.not_lt.mpr hes)]

section
variable {b : Builtin} {test : Value → Bool} (hb : b.Searches test) (hkeeps : registry.Keeps b)
  (hes : es ≠ [])
include hb hkeeps hes

/-- A call of a search is a search through the values of its operands. -/
lemma Builtin.Searches.evaluate_eq :
    evaluate registry scope (.call b.name es) =
      firstWhere test (es.map (evaluate registry scope)) := by
  have hlength : b.minArgs ≤ es.length := by
    rw [hb.minArgs]
    exact List.length_pos_iff.mpr hes
  rw [hkeeps.evaluate_eq scope hlength, hb.run]

/-- A search as the last operand of the same search can be left out, its operands in its place. -/
lemma Builtin.Searches.evaluate_nested (a : Expr) :
    evaluate registry scope (.call b.name [a, .call b.name es]) =
      evaluate registry scope (.call b.name (a :: es)) := by
  rw [hb.evaluate_eq scope hkeeps (List.cons_ne_nil _ _),
    hb.evaluate_eq scope hkeeps (List.cons_ne_nil _ _), List.map_cons, List.map_cons,
    List.map_nil, List.map_cons, hb.evaluate_eq scope hkeeps hes]
  exact firstWhere_nested _ (List.map_eq_nil_iff.not.mpr hes)

/-- The opposite of a search is the search with the opposite test for the opposites. -/
lemma Builtin.Searches.evaluate_not {c : Builtin} {testAfter : Value → Bool}
    (hc : c.Searches testAfter) (hkeepsAfter : registry.Keeps c) (hkeepsNot : registry.Keeps .not)
    (htest : ∀ v : Value, testAfter (.bool !v.isTruthy) = test v) :
    evaluate registry scope (.call "not" [.call b.name es]) =
      evaluate registry scope (.call c.name (es.map fun e => .call "not" [e])) := by
  have hnot (e : Expr) :
      evaluate registry scope (.call "not" [e]) = not.run [evaluate registry scope e] :=
    hkeepsNot.evaluate_eq scope (Nat.le_refl 1)
  have hopposites : (es.map fun e => Expr.call "not" [e]).map (evaluate registry scope) =
      (es.map (evaluate registry scope)).map fun x => not.run [x] := by
    rw [List.map_map, List.map_map]
    exact List.map_congr_left fun e _ => hnot e
  rw [hnot, hb.evaluate_eq scope hkeeps hes,
    hc.evaluate_eq scope hkeepsAfter (List.map_eq_nil_iff.not.mpr hes), hopposites]
  exact run_not_firstWhere htest (List.map_eq_nil_iff.not.mpr hes)

end

end

/-- The laws of logic, for values and host calls alike. Let a registry have the built-ins for logic
under their names, and whatever else. In every scope and for all operands, of which there is at
least one: `not` of `and` is `or` of `not` and the other way round; `and` as the last operand of
`and` can be left out, its operands in its place, and likewise for `or`; and `default` is `or` of
two. -/
theorem evaluate_logic {registry : Registry}
    (h : ∀ b ∈ [Builtin.and, .or, .not, .default], registry.Keeps b) (scope : Scope)
    {es : List Expr} (hes : es ≠ []) (a b : Expr) :
    evaluate registry scope (.call "not" [.call "and" es]) =
        evaluate registry scope (.call "or" (es.map fun e => .call "not" [e])) ∧
      evaluate registry scope (.call "not" [.call "or" es]) =
        evaluate registry scope (.call "and" (es.map fun e => .call "not" [e])) ∧
      evaluate registry scope (.call "and" [a, .call "and" es]) =
        evaluate registry scope (.call "and" (a :: es)) ∧
      evaluate registry scope (.call "or" [a, .call "or" es]) =
        evaluate registry scope (.call "or" (a :: es)) ∧
      evaluate registry scope (.call "default" [a, b]) =
        evaluate registry scope (.call "or" [a, b]) := by
  have hand := h .and (by simp)
  have hor := h .or (by simp)
  have hnot := h .not (by simp)
  have hdefault := h .default (by simp)
  refine ⟨?_, ?_, ?_, ?_, ?_⟩
  · exact Builtin.searches_and.evaluate_not scope hand hes Builtin.searches_or hor hnot fun _ => rfl
  · exact Builtin.searches_or.evaluate_not scope hor hes Builtin.searches_and hand hnot fun v =>
      Bool.not_not v.isTruthy
  · exact Builtin.searches_and.evaluate_nested scope hand hes a
  · exact Builtin.searches_or.evaluate_nested scope hor hes a
  · calc evaluate registry scope (.call "default" [a, b])
      _ = Builtin.default.run [evaluate registry scope a, evaluate registry scope b] :=
        hdefault.evaluate_eq scope (Nat.le_refl 2)
      _ = Builtin.firstWhere Value.isTruthy
          [evaluate registry scope a, evaluate registry scope b] := Builtin.run_default _ _
      _ = evaluate registry scope (.call "or" [a, b]) :=
        (Builtin.searches_or.evaluate_eq scope hor (List.cons_ne_nil a [b])).symm

/-- The built-ins and a function that gives back what it is called with. -/
def withEcho : Registry :=
  Registry.standard.after [⟨"echo", fun args => args.headD .null⟩]

/-- Three operands that call a function of the host, the second of which is false. -/
def echoes : List Expr :=
  [.call "echo" [.literal (.string "a")], .call "echo" [.literal (.bool false)],
    .call "echo" [.literal (.string "b")]]

/-- Both sides are true, and the function was called for the first two operands alone. -/
theorem evaluate_logic_of_echoes :
    (∀ b ∈ [Builtin.and, .or, .not, .default], withEcho.Keeps b) ∧ echoes ≠ [] ∧
      evaluate withEcho (.ofData []) (.call "not" [.call "and" echoes]) =
        evaluate withEcho (.ofData []) (.call "or" (echoes.map fun e => .call "not" [e])) ∧
      evaluate withEcho (.ofData []) (.call "not" [.call "and" echoes]) =
        ⟨.bool true, [⟨"echo", [.string "a"]⟩, ⟨"echo", [.bool false]⟩]⟩ := by
  have hkeeps : ∀ b ∈ [Builtin.and, .or, .not, .default], withEcho.Keeps b := by
    intro b hb
    refine (Registry.keeps_standard b).after (List.forall_mem_singleton.mpr ?_)
    revert b
    decide
  have hne : echoes ≠ [] := List.cons_ne_nil _ _
  exact ⟨hkeeps, hne, (evaluate_logic hkeeps (.ofData []) hne (.literal .null) (.literal .null)).1,
    rfl⟩

end Stencil

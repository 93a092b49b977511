import Mathlib.Data.List.Forall2
import Mathlib.Tactic.Lemma
import Stencil.Evaluation.Builtin
import Stencil.Evaluation.Traced
import Stencil.Proofs.Number.ZeroSign

/-!
# Built-ins on related operands

A built-in meets its operands only through the steps of a monad, and their values only through their
truth, text, number, items and equality. So it takes related operands to related results, for every
relation on computations that the steps keep (`Lifting`) over every relation on values that agrees
with what can be asked of a value (`Value.Congruence`). This is gone through once, in
`Builtin.run_related`.
-/

namespace Stencil

/-- A relation on computations for each relation on their results, kept by the steps of both. -/
structure Lifting (m n : Type → Type) [Monad m] [Monad n] where
  Rel {α β : Type} : (α → β → Prop) → m α → n β → Prop
  pure {α β : Type} {R : α → β → Prop} {a : α} {b : β} : R a b → Rel R (pure a) (pure b)
  bind {α β γ δ : Type} {R : α → β → Prop} {S : γ → δ → Prop} {x : m α} {y : n β} {f : α → m γ}
    {g : β → n δ} : Rel R x y → (∀ a b, R a b → Rel S (f a) (g b)) → Rel S (x >>= f) (y >>= g)

/-- Functions that take related results to related ones keep computations related. -/
lemma Lifting.map {m n : Type → Type} [Monad m] [Monad n] [LawfulMonad m] [LawfulMonad n]
    (L : Lifting m n) {α β γ δ : Type} {R : α → β → Prop} {S : γ → δ → Prop} {x : m α} {y : n β}
    {f : α → γ} {g : β → δ} (h : L.Rel R x y) (hfg : ∀ a b, R a b → S (f a) (g b)) :
    L.Rel S (f <$> x) (g <$> y) := by
  rw [map_eq_pure_bind, map_eq_pure_bind]
  exact L.bind h fun a b hab => L.pure (hfg a b hab)

namespace Traced

/-- Traced results with related values and the same host calls. -/
def lifting : Lifting Traced Traced where
  Rel R x y := R x.value y.value ∧ x.calls = y.calls
  pure h := ⟨h, rfl⟩
  bind {_ _ _ _ _ _ x y f g} h hfg := by
    obtain ⟨hvalue, hcalls⟩ := hfg _ _ h.1
    refine ⟨hvalue, ?_⟩
    rw [calls_bind, calls_bind, h.2, hcalls]

end Traced

/-- Values with one image are those whose lists have one image. -/
lemma forall₂_iff_map_eq {α β γ : Type} {f : α → γ} {g : β → γ} {xs : List α} {ys : List β} :
    List.Forall₂ (fun a b => f a = g b) xs ys ↔ xs.map f = ys.map g := by
  rw [← List.forall₂_eq_eq_eq, List.forall₂_map_left_iff, List.forall₂_map_right_iff]

namespace Value

/-- A relation between values that templates do not tell apart: nothing that a built-in asks of a
value differs, but for the signs of zeros. -/
structure Congruence (R : Value → Value → Prop) : Prop where
  refl (v : Value) : R v v
  isTruthy_eq {v w : Value} : R v w → v.isTruthy = w.isTruthy
  text_eq {v w : Value} : R v w → v.text = w.text
  number_eq {v w : Value} : R v w → v.toNumber.unsignZero = w.toNumber.unsignZero
  same_eq {v v' w w' : Value} : R v v' → R w w' → v.same w = v'.same w'
  array {xs ys : List Value} : List.Forall₂ R xs ys → R (array xs) (array ys)
  items {v w : Value} : R v w →
    (∃ xs ys, v = .array xs ∧ w = .array ys ∧ List.Forall₂ R xs ys) ∨
      (∀ xs, v ≠ .array xs) ∧ ∀ ys, w ≠ .array ys

/-- Equal values are not told apart. -/
lemma congruence_eq : Congruence Eq where
  refl _ := rfl
  isTruthy_eq h := h ▸ rfl
  text_eq h := h ▸ rfl
  number_eq h := h ▸ rfl
  same_eq h h' := h ▸ h' ▸ rfl
  array {xs ys} h := by
    rw [List.forall₂_eq_eq_eq] at h
    rw [h]
  items {v w} h := by
    subst h
    cases v with
    | array xs => exact .inl ⟨xs, xs, rfl, rfl, List.forall₂_eq_eq_eq ▸ rfl⟩
    | _ => exact .inr ⟨nofun, nofun⟩

namespace Congruence

variable {R : Value → Value → Prop} {xs ys : List Value}

/-- Equal values are related. -/
lemma of_eq (hR : Congruence R) {v w : Value} (h : v = w) : R v w :=
  h ▸ hR.refl v

/-- Related items have the same texts. -/
lemma texts_eq (hR : Congruence R) (h : List.Forall₂ R xs ys) : texts xs = texts ys := by
  rw [texts_eq_map, texts_eq_map]
  exact forall₂_iff_map_eq.mp (h.imp fun _ _ => hR.text_eq)

/-- The first ones of related items are related. -/
lemma head_rel (hR : Congruence R) (h : List.Forall₂ R xs ys) :
    R (xs.head?.getD .null) (ys.head?.getD .null) := by
  cases h with
  | nil => exact hR.refl _
  | cons h _ => exact h

/-- The last ones of related items are related. -/
lemma last_rel (hR : Congruence R) (h : List.Forall₂ R xs ys) :
    R (xs.getLast?.getD .null) (ys.getLast?.getD .null) := by
  rw [← List.head?_reverse, ← List.head?_reverse]
  exact hR.head_rel (List.rel_reverse h)

/-- What is made of the items of an array, and otherwise of a value as a whole, is related if both
are. -/
lemma byItems (hR : Congruence R) {α β : Type} {S : α → β → Prop} {v w : Value}
    {f : List Value → α} {g : List Value → β} (p : Value → α) (q : Value → β) :
    R v w → (∀ xs ys, List.Forall₂ R xs ys → S (f xs) (g ys)) → S (p v) (q w) →
      S (match v with | .array items => f items | v => p v)
        (match w with | .array items => g items | w => q w) := by
  intro h hitems hwhole
  obtain ⟨xs, ys, rfl, rfl, hxs⟩ | ⟨hv, hw⟩ := hR.items h
  · exact hitems xs ys hxs
  · split
    · exact absurd rfl (hv _)
    · exact hwhole

end Congruence

end Value

namespace Builtin

/-- Where a text is cut does not depend on the sign of zero. -/
lemma truncated_congr (s suffix : String) {x y : Number} (h : x.unsignZero = y.unsignZero) :
    truncated s x suffix = truncated s y suffix := by
  have htruncated (z : Number) : truncated s z.unsignZero suffix = truncated s z suffix := by
    simp only [truncated, Number.unsignZero_eq_nan_iff, Number.lessOrSame_unsignZero,
      Number.toCount_unsignZero]
  rw [← htruncated x, h, htruncated]

section
variable {m n : Type → Type} [Monad m] [Monad n] (L : Lifting m n) {R : Value → Value → Prop}
  {xs : List (m Value)} {ys : List (n Value)}

/-- Each operand is related to its counterpart. -/
lemma operand_related (hR : Value.Congruence R) (h : List.Forall₂ (L.Rel R) xs ys) (i : Nat) :
    L.Rel R (operand xs i) (operand ys i) := by
  induction h generalizing i with
  | nil => exact L.pure (hR.refl .null)
  | cons hx _ ih =>
    cases i with
    | zero => exact hx
    | succ i => exact ih i

/-- The search for an operand that passes a test goes the same way. -/
lemma firstWhere_related (hR : Value.Congruence R) {test : Value → Bool}
    (htest : ∀ v w, R v w → test v = test w) (h : List.Forall₂ (L.Rel R) xs ys) :
    L.Rel R (firstWhere test xs) (firstWhere test ys) := by
  induction h with
  | nil => exact L.pure (hR.refl .null)
  | cons hx htail ih =>
    -- the last operand is the result without a test
    cases htail with
    | nil => exact hx
    | cons _ _ =>
      refine L.bind hx fun v w hvw => ?_
      rw [htest v w hvw]
      cases test w with
      | true => exact L.pure hvw
      | false => exact ih

variable [LawfulMonad m] [LawfulMonad n]

/-- The texts of related operands are equal. -/
lemma textOperand_related (hR : Value.Congruence R) (h : List.Forall₂ (L.Rel R) xs ys) (i : Nat) :
    L.Rel Eq (textOperand xs i) (textOperand ys i) :=
  L.map (operand_related L hR h i) fun _ _ => hR.text_eq

/-- The numbers of related operands are equal up to the sign of zero. -/
lemma numberOperand_related (hR : Value.Congruence R) (h : List.Forall₂ (L.Rel R) xs ys) (i : Nat) :
    L.Rel (fun x y => x.unsignZero = y.unsignZero) (numberOperand xs i) (numberOperand ys i) :=
  L.map (operand_related L hR h i) fun _ _ => hR.number_eq

/-- A comparison that does not see the sign of zero has related results. -/
lemma compare_related (hR : Value.Congruence R) {test : Number → Number → Bool}
    (htest : ∀ x y, test x.unsignZero y.unsignZero = test x y)
    (h : List.Forall₂ (L.Rel R) xs ys) : L.Rel R (compare test xs) (compare test ys) := by
  refine L.bind (numberOperand_related L hR h 0) fun x x' hx => ?_
  refine L.bind (numberOperand_related L hR h 1) fun y y' hy => L.pure ?_
  rw [← htest x y, hx, hy, htest]
  exact hR.refl _

/-- Every built-in takes related operands to related results. -/
theorem run_related (hR : Value.Congruence R) (b : Builtin) (h : List.Forall₂ (L.Rel R) xs ys) :
    L.Rel R (b.run xs) (b.run ys) := by
  have operand := operand_related L hR h
  have textOperand := textOperand_related L hR h
  have numberOperand := numberOperand_related L hR h
  cases b with
  | equal | unequal =>
    refine L.bind (operand 0) fun v v' hv => L.bind (operand 1) fun w w' hw => L.pure ?_
    exact hR.of_eq (by rw [hR.same_eq hv hw])
  | greater => exact compare_related L hR (fun x y => Number.related_unsignZero _ y x) h
  | less => exact compare_related L hR (Number.related_unsignZero _) h
  | greaterOrEqual => exact compare_related L hR (fun x y => Number.related_unsignZero _ y x) h
  | lessOrEqual => exact compare_related L hR (Number.related_unsignZero _) h
  | and => exact firstWhere_related L hR (fun v w hvw => by rw [hR.isTruthy_eq hvw]) h
  | or => exact firstWhere_related L hR (fun v w => hR.isTruthy_eq) h
  | not =>
    refine L.bind (operand 0) fun v w hvw => L.pure (hR.of_eq ?_)
    rw [hR.isTruthy_eq hvw]
  | lowercase | uppercase | trim =>
    refine L.bind (textOperand 0) fun s t hst => L.pure (hR.of_eq ?_)
    rw [hst]
  | truncate =>
    refine L.bind (textOperand 0) fun s s' hs => L.bind (numberOperand 1) fun x y hxy => ?_
    have hcut {t t' : String} (ht : t = t') :
        R (.string (truncated s x t)) (.string (truncated s' y t')) :=
      hR.of_eq (by rw [hs, ht, truncated_congr s' t' hxy])
    rw [h.length_eq]
    split
    · exact L.bind (textOperand 2) fun t t' ht => L.pure (hcut ht)
    · exact L.bind (L.pure rfl) fun t t' ht => L.pure (hcut ht)
  | replace =>
    refine L.bind (textOperand 0) fun s s' hs => L.bind (textOperand 1) fun old old' hold =>
      L.bind (textOperand 2) fun new new' hnew => L.pure (hR.of_eq ?_)
    rw [hs, hold, hnew]
  | limit =>
    refine L.bind (operand 0) fun v w hvw => L.bind (numberOperand 1) fun x y hxy => L.pure ?_
    rw [← Number.toCount_unsignZero x, hxy, Number.toCount_unsignZero]
    exact hR.byItems id id hvw (fun _ _ hitems => hR.array (List.forall₂_take _ hitems)) hvw
  | first =>
    refine L.bind (operand 0) fun v w hvw => L.pure ?_
    exact hR.byItems id id hvw (fun _ _ => hR.head_rel) hvw
  | last =>
    refine L.bind (operand 0) fun v w hvw => L.pure ?_
    exact hR.byItems id id hvw (fun _ _ => hR.last_rel) hvw
  | length =>
    refine L.bind (operand 0) fun v w hvw => L.pure (hR.of_eq (congrArg Value.ofNat ?_))
    exact hR.byItems (·.text.length) (·.text.length) hvw (fun _ _ hitems => hitems.length_eq)
      (congrArg String.length (hR.text_eq hvw))
  | join =>
    refine L.bind (operand 0) fun v w hvw => L.bind (textOperand 1) fun s t hst =>
      L.pure (hR.of_eq (congrArg Value.string ?_))
    refine hR.byItems Value.text Value.text hvw (fun _ _ hitems => ?_) (hR.text_eq hvw)
    rw [hst, hR.texts_eq hitems]
  | default =>
    refine L.bind (operand 0) fun v w hvw => ?_
    rw [hR.isTruthy_eq hvw]
    cases w.isTruthy with
    | true => exact L.pure hvw
    | false => exact operand 1

end

end Builtin

end Stencil

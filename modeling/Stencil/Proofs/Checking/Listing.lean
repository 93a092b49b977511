import Mathlib.Data.List.Sort
import Stencil.Proofs.Checking.Site

/-!
# Listings

A list can be told by what it has entries for, when these have addresses in a strict order: it has
one entry for each address and value in a relation, in the order of the addresses (`Lists`). There
is only one such list (`Lists.unique`), so that two computations that list the same are equal.
Listings of parts are put together with `Lists.append` and, for the items of a list, with
`Lists.cons`.
-/

namespace Stencil

section
variable {ι α β γ δ : Type} {before : α → α → Prop} {entry : α → β → γ} {holds more : α → β → Prop}
  {xs ys : List γ}

/-- A list has one entry for each address and value in a relation, in the order of the addresses. -/
def Lists (before : α → α → Prop) (entry : α → β → γ) (holds : α → β → Prop) (xs : List γ) : Prop :=
  ∃ pairs : List (α × β), pairs.Pairwise (fun p q => before p.1 q.1) ∧
    (∀ a b, (a, b) ∈ pairs ↔ holds a b) ∧ xs = pairs.map fun p => entry p.1 p.2

namespace Lists

/-- The empty list lists a relation that never holds. -/
lemma nil (h : ∀ a b, ¬holds a b) : Lists before entry holds [] :=
  ⟨[], .nil, fun a b => ⟨fun hp => absurd hp List.not_mem_nil, fun hab => absurd hab (h a b)⟩, rfl⟩

/-- One entry lists a relation that holds once. -/
lemma singleton {a : α} {b : β} (h : ∀ c d, holds c d ↔ c = a ∧ d = b) :
    Lists before entry holds [entry a b] := by
  refine ⟨[(a, b)], List.pairwise_singleton _ _, fun c d => ?_, rfl⟩
  rw [List.mem_singleton, Prod.mk.injEq, h]

/-- A list of a relation lists every equivalent one. -/
lemma congr (h : Lists before entry holds xs) (hiff : ∀ a b, more a b ↔ holds a b) :
    Lists before entry more xs := by
  obtain ⟨pairs, hpairs, hmem, hxs⟩ := h
  exact ⟨pairs, hpairs, fun a b => (hmem a b).trans (hiff a b).symm, hxs⟩

/-- What is listed behind something else comes after it. -/
lemma append (h : Lists before entry holds xs) (hmore : Lists before entry more ys)
    (hbefore : ∀ a b c d, holds a b → more c d → before a c) :
    Lists before entry (fun a b => holds a b ∨ more a b) (xs ++ ys) := by
  obtain ⟨pairs, hpairs, hmem, rfl⟩ := h
  obtain ⟨others, hothers, hmemOthers, rfl⟩ := hmore
  refine ⟨pairs ++ others, List.pairwise_append.mpr ⟨hpairs, hothers, ?_⟩, fun a b => ?_,
    List.map_append.symm⟩
  · rintro ⟨a, b⟩ hp ⟨c, d⟩ hq
    exact hbefore a b c d ((hmem a b).mp hp) ((hmemOthers c d).mp hq)
  · rw [List.mem_append, hmem, hmemOthers]

/-- A listing stays one when its addresses are put inside others that keep their order. -/
lemma enter {later : δ → δ → Prop} {ζ : Type} {report : δ → β → ζ} (inside : α → δ) (f : γ → ζ)
    (h : Lists before entry holds xs) (hbefore : ∀ a b, before a b → later (inside a) (inside b))
    (hreport : ∀ a b, f (entry a b) = report (inside a) b) :
    Lists later report (fun d b => ∃ a, d = inside a ∧ holds a b) (xs.map f) := by
  obtain ⟨pairs, hpairs, hmem, rfl⟩ := h
  refine ⟨pairs.map fun p => (inside p.1, p.2), ?_, fun d b => ?_, ?_⟩
  · exact List.pairwise_map.mpr (hpairs.imp fun hpq => hbefore _ _ hpq)
  · simp [← hmem, eq_comm, and_comm]
  · simp [hreport]

/-- In a strict order there is only one listing of a relation. -/
lemma unique (hbefore : ∀ a b, before a b → ¬before b a) (h : Lists before entry holds xs)
    (h' : Lists before entry holds ys) : xs = ys := by
  obtain ⟨pairs, hpairs, hmem, rfl⟩ := h
  obtain ⟨others, hothers, hmemOthers, rfl⟩ := h'
  have : Std.Antisymm fun p q : α × β => before p.1 q.1 :=
    ⟨fun p q hpq hqp => absurd hqp (hbefore _ _ hpq)⟩
  have : Std.Irrefl fun p q : α × β => before p.1 q.1 :=
    ⟨fun p hpp => hbefore _ _ hpp hpp⟩
  rw [hpairs.eq_of_mem_iff hothers fun p => (hmem p.1 p.2).trans (hmemOthers p.1 p.2).symm]

/-- The entries that pass a test are a listing of what they stand for. -/
lemma filter (h : Lists before entry holds xs) {test : γ → Bool} {keep : β → Prop}
    (htest : ∀ a b, test (entry a b) = true ↔ keep b) :
    Lists before entry (fun a b => holds a b ∧ keep b) (xs.filter test) := by
  obtain ⟨pairs, hpairs, hmem, rfl⟩ := h
  refine ⟨pairs.filter fun p => test (entry p.1 p.2), hpairs.filter _, fun a b => ?_, ?_⟩
  · rw [List.mem_filter, hmem, htest]
  · rw [List.filter_map]
    rfl

end Lists

/-- A relation at the items of a list, the first of which has the index `i`. The address of an item
is put inside that of its index. -/
def Indexed (inside : Nat → α → α) (holds : ι → α → β → Prop) (i : Nat) (items : List ι) (a : α)
    (b : β) : Prop :=
  ∃ k item inner, items[k]? = some item ∧ a = inside (i + k) inner ∧ holds item inner b

section
variable {inside : Nat → α → α} {holds : ι → α → β → Prop} {i : Nat} {item : ι} {items : List ι}

/-- From the first item on, the index of an item is its place in the list. -/
lemma indexed_zero {a : α} {b : β} :
    Indexed inside holds 0 items a b ↔
      ∃ k item inner, items[k]? = some item ∧ a = inside k inner ∧ holds item inner b := by
  simp only [Indexed, Nat.zero_add]

/-- Nothing holds of an item if there are none. -/
lemma not_indexed_nil (a : α) (b : β) : ¬Indexed inside holds i [] a b := by
  rintro ⟨k, item, inner, hitem, _⟩
  cases hitem

/-- What holds of an item holds of the first one or of one behind it. -/
lemma indexed_cons {a : α} {b : β} :
    Indexed inside holds i (item :: items) a b ↔
      (∃ inner, a = inside i inner ∧ holds item inner b) ∨
        Indexed inside holds (i + 1) items a b := by
  constructor
  · rintro ⟨k, x, inner, hx, ha, hb⟩
    cases k with
    | zero =>
      cases hx
      exact .inl ⟨inner, ha, hb⟩
    | succ k => exact .inr ⟨k, x, inner, hx, by rw [ha, Nat.add_assoc, Nat.add_comm 1 k], hb⟩
  · rintro (⟨inner, ha, hb⟩ | ⟨k, x, inner, hx, ha, hb⟩)
    · exact ⟨0, item, inner, rfl, ha, hb⟩
    · exact ⟨k + 1, x, inner, hx, by rw [ha, Nat.add_assoc, Nat.add_comm 1 k], hb⟩

/-- The entries of an item stand before those of the items behind it. -/
lemma Lists.cons (f : γ → γ) (hmore : Lists before entry (Indexed inside holds (i + 1) items) ys)
    (h : Lists before entry (holds item) xs)
    (hsame : ∀ a b, before a b → before (inside i a) (inside i b))
    (hlater : ∀ k a b, i < k → before (inside i a) (inside k b))
    (hentry : ∀ a b, f (entry a b) = entry (inside i a) b) :
    Lists before entry (Indexed inside holds i (item :: items)) (xs.map f ++ ys) := by
  refine ((h.enter (inside i) f hsame hentry).append hmore ?_).congr fun a b => indexed_cons
  rintro _ b _ d ⟨a, rfl, _⟩ ⟨k, _, inner, _, rfl, _⟩
  exact hlater (i + 1 + k) a inner (by omega)

end

end

end Stencil

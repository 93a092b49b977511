import Mathlib.Data.String.Basic
import Mathlib.Tactic.Lemma
import Stencil.Fields

/-!
# Fields in order

A map that was built by insertions lists its names in ascending order, so each of them once. Such a
map is determined by the values found in it (`Ascending.ext`). What is inserted under different
names can therefore be inserted in any order (`Ascending.insert_comm`).
-/

namespace Stencil.Fields

variable {α : Type}

/-- The names are listed in ascending order. -/
def Ascending (fields : Fields α) : Prop :=
  (names fields).Pairwise (· < ·)

/-- A value is found under the name where it was put, and what the other names lead to stays. -/
lemma get?_insert (fields : Fields α) (name : String) (value : α) (other : String) :
    get? (insert fields name value) other =
      if other = name then some value else get? fields other := by
  split
  · case isTrue h =>
    subst h
    exact get?_insert_self fields other value
  · case isFalse h => exact get?_insert_of_ne fields value h

/-- The names of a map are those under which a value is found. -/
lemma mem_names_iff {fields : Fields α} {name : String} :
    name ∈ names fields ↔ (get? fields name).isSome := by
  induction fields with
  | nil => simp [names, get?]
  | cons p rest ih =>
    obtain ⟨k, v⟩ := p
    have hcons : name ∈ names ((k, v) :: rest) ↔ name = k ∨ name ∈ names rest := List.mem_cons
    rw [hcons, get?_cons, ih]
    split
    · case isTrue h => simp [h]
    · case isFalse h => simp [h]

/-- Nothing is found just under the names that are not there. -/
lemma get?_eq_none_iff {fields : Fields α} {name : String} :
    get? fields name = none ↔ name ∉ names fields := by
  rw [mem_names_iff, Option.not_isSome_iff_eq_none]

/-- One more name is there. -/
lemma mem_names_insert {fields : Fields α} {name : String} {value : α} {other : String} :
    other ∈ names (insert fields name value) ↔ other = name ∨ other ∈ names fields := by
  rw [mem_names_iff, mem_names_iff, get?_insert]
  split
  · case isTrue h => simp [h]
  · case isFalse h => simp [h]

/-- Of pairs with different names, each is found after all of them were inserted. -/
lemma get?_foldl_insert {pairs : List (String × α)} (h : (names pairs).Nodup) (fields : Fields α)
    (name : String) :
    get? (pairs.foldl (fun fields p => insert fields p.1 p.2) fields) name =
      (get? pairs name).or (get? fields name) := by
  induction pairs generalizing fields with
  | nil => rfl
  | cons p rest ih =>
    obtain ⟨k, v⟩ := p
    obtain ⟨hk, hrest⟩ := List.nodup_cons.mp h
    rw [List.foldl_cons, ih hrest, get?_insert, get?_cons]
    split
    · case isTrue heq => rw [heq, get?_eq_none_iff.mpr hk, Option.none_or, Option.some_or]
    · case isFalse hne => rfl

/-- A map made of pairs with different names holds just these. -/
lemma get?_ofPairs {pairs : List (String × α)} (h : (names pairs).Nodup) (name : String) :
    get? (ofPairs pairs) name = get? pairs name := by
  rw [ofPairs, get?_foldl_insert h]
  exact Option.or_none

/-- Fields are in order if the first name is below the others, which are in order. -/
lemma ascending_cons {k : String} {v : α} {rest : Fields α} :
    Ascending ((k, v) :: rest) ↔ (∀ name ∈ names rest, k < name) ∧ Ascending rest :=
  List.pairwise_cons

/-- No fields are in order. -/
lemma ascending_nil : Ascending ([] : Fields α) :=
  List.Pairwise.nil

/-- Insertion keeps the order. -/
lemma Ascending.insert {fields : Fields α} (h : Ascending fields) (name : String) (value : α) :
    Ascending (insert fields name value) := by
  induction fields with
  | nil => exact List.pairwise_singleton _ _
  | cons p rest ih =>
    obtain ⟨k, v⟩ := p
    obtain ⟨hk, hrest⟩ := ascending_cons.mp h
    unfold Fields.insert
    split
    · case isTrue hlt =>
      refine ascending_cons.mpr ⟨fun other hother => ?_, h⟩
      obtain rfl | hother := List.mem_cons.mp hother
      · exact hlt
      · exact hlt.trans (hk other hother)
    · case isFalse hnlt =>
      split
      · case isTrue heq => exact ascending_cons.mpr ⟨heq ▸ hk, hrest⟩
      · case isFalse hne =>
        refine ascending_cons.mpr ⟨fun other hother => ?_, ih hrest⟩
        obtain rfl | hother := mem_names_insert.mp hother
        · exact lt_of_le_of_ne (not_lt.mp hnlt) (Ne.symm hne)
        · exact hk other hother

/-- Fields stay in order when others are put in. -/
lemma Ascending.foldl_insert {fields : Fields α} (h : Ascending fields)
    (pairs : List (String × α)) :
    Ascending (pairs.foldl (fun fields p => Fields.insert fields p.1 p.2) fields) := by
  induction pairs generalizing fields with
  | nil => exact h
  | cons p rest ih => exact ih (h.insert p.1 p.2)

/-- Fields made of pairs are in order. -/
lemma ascending_ofPairs (pairs : List (String × α)) : Ascending (ofPairs pairs) :=
  ascending_nil.foldl_insert pairs

/-- In a map in order nothing is found behind the first name under that name. -/
lemma Ascending.get?_tail {k : String} {v : α} {rest : Fields α} (h : Ascending ((k, v) :: rest)) :
    get? rest k = none :=
  get?_eq_none_iff.mpr fun hk => lt_irrefl k ((ascending_cons.mp h).1 k hk)

/-- A name before the first one of a map in order is not in it. -/
lemma Ascending.get?_of_lt {name k : String} {v : α} {rest : Fields α}
    (h : Ascending ((k, v) :: rest)) (hlt : name < k) : get? ((k, v) :: rest) name = none := by
  refine get?_eq_none_iff.mpr fun hname => ?_
  obtain rfl | hname := List.mem_cons.mp hname
  · exact lt_irrefl _ hlt
  · exact lt_asymm hlt ((ascending_cons.mp h).1 name hname)

/-- Maps in order are one map if the same values are found in them. -/
theorem Ascending.ext {xs ys : Fields α} (hxs : Ascending xs) (hys : Ascending ys)
    (h : ∀ name, get? xs name = get? ys name) : xs = ys := by
  induction xs generalizing ys with
  | nil =>
    cases ys with
    | nil => rfl
    | cons q ys =>
      have hq := h q.1
      rw [get?_cons, if_pos rfl] at hq
      cases hq
  | cons p xs ih =>
    obtain ⟨k, v⟩ := p
    have hk := h k
    rw [get?_cons, if_pos rfl] at hk
    cases ys with
    | nil => cases hk
    | cons q ys =>
      obtain ⟨l, w⟩ := q
      have hl := h l
      rw [get?_cons l, if_pos rfl] at hl
      -- the lesser of the two first names would be missing from the other map
      obtain hlt | rfl | hlt := lt_trichotomy k l
      · rw [hys.get?_of_lt hlt] at hk
        cases hk
      · rw [get?_cons, if_pos rfl] at hk
        cases hk
        have htail : xs = ys := by
          refine ih (ascending_cons.mp hxs).2 (ascending_cons.mp hys).2 fun name => ?_
          by_cases hname : name = k
          · rw [hname, hxs.get?_tail, hys.get?_tail]
          · have hrest := h name
            rwa [get?_cons, get?_cons, if_neg hname, if_neg hname] at hrest
        rw [htail]
      · rw [hxs.get?_of_lt hlt] at hl
        cases hl

/-- Insertions under different names can be exchanged. -/
theorem Ascending.insert_comm {fields : Fields α} (h : Ascending fields) {k l : String}
    (hne : k ≠ l) (v w : α) :
    Fields.insert (Fields.insert fields k v) l w =
      Fields.insert (Fields.insert fields l w) k v := by
  refine ext ((h.insert k v).insert l w) ((h.insert l w).insert k v) fun name => ?_
  simp only [get?_insert]
  by_cases hk : name = k
  · rw [if_pos hk, if_neg (hk ▸ hne), if_pos hk]
  · rw [if_neg hk, if_neg hk]

end Stencil.Fields

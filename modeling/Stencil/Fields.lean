/-!
# Fields

A finite map from names to values, as an association list in ascending order of the names. `insert`
keeps the order, so a map built by insertions lists each name once and in that order; the laws of
`get?` and `insert` hold of any list.
-/

namespace Stencil

/-- A map from names to values. -/
abbrev Fields (α : Type) : Type :=
  List (String × α)

namespace Fields

variable {α : Type}

/-- The value under a name. -/
def get? (fields : Fields α) (name : String) : Option α :=
  fields.lookup name

/-- Puts a value under a name, in the place of an earlier one. -/
def insert (fields : Fields α) (name : String) (value : α) : Fields α :=
  match fields with
  | [] => [(name, value)]
  | (k, v) :: rest =>
    if name < k then (name, value) :: (k, v) :: rest
    else if name = k then (name, value) :: rest
    else (k, v) :: insert rest name value

/-- The map of some pairs, in which the last value of a name counts. -/
def ofPairs (pairs : List (String × α)) : Fields α :=
  pairs.foldl (fun fields p => insert fields p.1 p.2) []

/-- The names that have a value. -/
def names (fields : Fields α) : List String :=
  fields.map Prod.fst

/-- The map with what a function makes of each value. -/
def mapValues {β : Type} (f : α → β) (fields : Fields α) : Fields β :=
  fields.map fun p => (p.1, f p.2)

/-- A field is the first one or one of the rest. -/
theorem get?_cons (k : String) (v : α) (rest : Fields α) (name : String) :
    get? ((k, v) :: rest) name = if name = k then some v else get? rest name := by
  by_cases h : name = k
  · subst h
    simp [get?]
  · have hne : (name == k) = false := beq_eq_false_iff_ne.mpr h
    simp [get?, List.lookup_cons, hne, h]

/-- What was put under a name is found there. -/
@[simp] theorem get?_insert_self (fields : Fields α) (name : String) (value : α) :
    get? (insert fields name value) name = some value := by
  induction fields with
  | nil => simp [insert, get?_cons]
  | cons p rest ih =>
    obtain ⟨k, v⟩ := p
    unfold insert
    split
    · simp [get?_cons]
    · split
      · simp [get?_cons]
      · case isFalse hne => rw [get?_cons, if_neg hne, ih]

/-- What is found under the other names stays. -/
theorem get?_insert_of_ne (fields : Fields α) {name other : String} (value : α)
    (h : other ≠ name) : get? (insert fields name value) other = get? fields other := by
  induction fields with
  | nil => simp [insert, h, get?]
  | cons p rest ih =>
    obtain ⟨k, v⟩ := p
    unfold insert
    split
    · rw [get?_cons, if_neg h]
    · split
      · case isTrue hk => rw [get?_cons, get?_cons, if_neg h, if_neg (hk ▸ h)]
      · rw [get?_cons, get?_cons, ih]

/-- What is in a map after an insertion was put there or was in it before. -/
theorem mem_of_mem_insert {fields : Fields α} {name : String} {value : α} {p : String × α}
    (h : p ∈ insert fields name value) : p = (name, value) ∨ p ∈ fields := by
  induction fields with
  | nil => exact .inl (List.mem_singleton.mp h)
  | cons q rest ih =>
    obtain ⟨k, v⟩ := q
    unfold insert at h
    split at h
    · exact List.mem_cons.mp h
    · split at h
      · exact (List.mem_cons.mp h).imp_right (List.mem_cons_of_mem _)
      · obtain rfl | h := List.mem_cons.mp h
        · exact .inr List.mem_cons_self
        · exact (ih h).imp_right (List.mem_cons_of_mem _)

/-- A field that is found is one of the fields. -/
theorem mem_of_get? {fields : Fields α} {name : String} {value : α}
    (h : get? fields name = some value) : (name, value) ∈ fields := by
  induction fields with
  | nil => cases h
  | cons p rest ih =>
    obtain ⟨k, v⟩ := p
    rw [get?_cons] at h
    split at h
    · case isTrue hk =>
      cases h
      rw [hk]
      exact List.mem_cons_self
    · exact List.mem_cons_of_mem _ (ih h)

/-- A field of mapped fields is the field, mapped. -/
theorem get?_mapValues {β : Type} (f : α → β) (fields : Fields α) (name : String) :
    get? (mapValues f fields) name = (get? fields name).map f := by
  induction fields with
  | nil => rfl
  | cons p rest ih =>
    obtain ⟨k, v⟩ := p
    change get? ((k, f v) :: mapValues f rest) name = _
    rw [get?_cons, get?_cons, ih]
    split
    · rfl
    · rfl

/-- Fields are mapped before or after one is put in. -/
theorem mapValues_insert {β : Type} (f : α → β) (fields : Fields α) (name : String) (value : α) :
    mapValues f (insert fields name value) = insert (mapValues f fields) name (f value) := by
  induction fields with
  | nil => rfl
  | cons p rest ih =>
    obtain ⟨k, v⟩ := p
    change _ = insert ((k, f v) :: mapValues f rest) name (f value)
    unfold insert
    split
    · rfl
    · split
      · rfl
      · rw [← ih]
        rfl

end Fields

end Stencil

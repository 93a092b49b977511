import Stencil.Proofs.Markup.Escaping

/-!
# Reading entities back

Escaping loses nothing: the pass from the left that puts each of the five entities back to its
character (`Text.unescape`) finds the text again. It is never out of step, because the character it
stands at is `&` only in front of an entity that escaping has written: an `&` of the text itself
comes back from `&amp;`, and what follows it is read afresh.

Main statement: an escaped text can be read back and is inert, escaping is done piece by piece, and
it changes every text that has a special character (`Text.escape_recoverable`).
-/

namespace Stencil.Text

/-- Puts entities back to the characters they stand for, in one pass from the left. -/
def charactersOf : List Char → List Char
  | [] => []
  | '&' :: 'a' :: 'm' :: 'p' :: ';' :: s => '&' :: charactersOf s
  | '&' :: 'l' :: 't' :: ';' :: s => '<' :: charactersOf s
  | '&' :: 'g' :: 't' :: ';' :: s => '>' :: charactersOf s
  | '&' :: 'q' :: 'u' :: 'o' :: 't' :: ';' :: s => '"' :: charactersOf s
  | '&' :: '#' :: '3' :: '9' :: ';' :: s => '\'' :: charactersOf s
  | c :: s => c :: charactersOf s

/-- A text with every entity put back to its character. -/
def unescape (s : String) : String :=
  String.ofList (charactersOf s.toList)

/-- Only `&` begins an entity. -/
lemma charactersOf_cons {c : Char} (hc : c ≠ '&') (s : List Char) :
    charactersOf (c :: s) = c :: charactersOf s := by
  rw [charactersOf]
  all_goals
    rintro _ rfl
    exact absurd rfl hc

/-- What escaping makes of one character is read back as this character, whatever follows. -/
lemma charactersOf_entity_append (c : Char) (s : List Char) :
    charactersOf (entity c ++ s) = c :: charactersOf s := by
  by_cases hc : c ∈ special
  · simp only [special, List.mem_cons, List.not_mem_nil, or_false] at hc
    obtain rfl | rfl | rfl | rfl | rfl := hc <;> rfl
  · have hamp : c ≠ '&' := by
      rintro rfl
      exact hc List.mem_cons_self
    rw [entity_of_not_mem hc, List.singleton_append, charactersOf_cons hamp]

/-- An escaped text is read back, and reading then goes on behind it. -/
lemma charactersOf_flatMap_entity (s t : List Char) :
    charactersOf (s.flatMap entity ++ t) = s ++ charactersOf t := by
  induction s with
  | nil => rfl
  | cons c s ih =>
    rw [List.flatMap_cons, List.append_assoc, charactersOf_entity_append, ih, List.cons_append]

/-- To undo the escapes of a text gives it back. -/
lemma unescape_escape (s : String) : unescape (escape s) = s := by
  have h := charactersOf_flatMap_entity s.toList []
  rw [List.append_nil, charactersOf, List.append_nil] at h
  rw [unescape, toList_escape, h, String.ofList_toList]

/-- Escaping makes a text longer by at least one character for each special one. -/
lemma length_add_countP_le (s : List Char) :
    s.length + s.countP (special.contains ·) ≤ (s.flatMap entity).length := by
  induction s with
  | nil => exact Nat.le_refl 0
  | cons c s ih =>
    rw [List.flatMap_cons, List.length_append, List.length_cons, List.countP_cons]
    by_cases hc : c ∈ special
    · obtain ⟨e, heq, he, -⟩ := entity_of_mem hc
      have hlong : ∀ e ∈ entities, 2 ≤ e.length := by decide
      have htwo := hlong _ he
      rw [heq, if_pos (List.contains_iff_mem.mpr hc)]
      omega
    · rw [entity_of_not_mem hc, if_neg (mt List.contains_iff_mem.mp hc), List.length_singleton]
      omega

/-- Escaping leaves as they are just the texts without special characters. -/
lemma escape_eq_self_iff {s : String} : escape s = s ↔ ∀ c ∈ s.toList, c ∉ special := by
  refine ⟨fun h c hc hspecial => ?_, escape_eq_self⟩
  have hlength := length_add_countP_le s.toList
  rw [← toList_escape, h] at hlength
  have hpos : 0 < s.toList.countP (special.contains ·) :=
    List.countP_pos_iff.mpr ⟨c, hc, List.contains_iff_mem.mpr hspecial⟩
  omega

/-- Escaping can be undone, by putting entities back in one pass from the left, so no two texts are
escaped alike. What it gives is inert. It is done piece by piece, and it changes a text just if this
has a special character. -/
theorem escape_recoverable :
    (∀ s, unescape (escape s) = s) ∧
    Function.Injective escape ∧
    (∀ s, Inert (escape s).toList) ∧
    (∀ s t, escape (s ++ t) = escape s ++ escape t) ∧
    (∀ s, escape s = s ↔ ∀ c ∈ s.toList, c ∉ special) := by
  refine ⟨unescape_escape, ?_, ?_, escape_append, fun s => escape_eq_self_iff⟩
  · exact Function.LeftInverse.injective unescape_escape
  · intro s
    rw [toList_escape]
    exact inert_flatMap_entity s.toList

/-- A text of entities and halves of entities. -/
example : unescape (escape "&amp;amp;&#3" ++ escape "9;<") = "&amp;amp;&#39;<" := by
  decide +kernel

end Stencil.Text

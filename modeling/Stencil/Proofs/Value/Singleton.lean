import Stencil.Proofs.Number.RoundTrip

/-!
# Arrays of one item as numbers

The number of an array with one item is that of the item's text, however deeply the item is nested.
For all values but booleans it agrees with the number of the item: the text of a number is read
back, the text of two or more items has a comma, which no number has, and the text of an inner array
with one item is the text of that item. Booleans count as numbers, but their texts do not.

Main statement: where the two numbers agree (`Value.toNumber_singleton`).
-/

namespace Stencil

namespace Text

/-- Trimming leaves all characters but blanks. -/
lemma mem_trim {s : List Char} {c : Char} (hc : c ∈ s) (hblank : isBlank c = false) :
    c ∈ trim s := by
  have hdrop {s : List Char} (hc : c ∈ s) : c ∈ s.dropWhile isBlank := by
    rw [← List.takeWhile_append_dropWhile (p := isBlank) (l := s), List.mem_append] at hc
    obtain hfront | hrest := hc
    · exact absurd (List.all_eq_true.mp List.all_takeWhile c hfront) (Bool.eq_false_iff.mp hblank)
    · exact hrest
  rw [trim, List.mem_reverse]
  exact hdrop (List.mem_reverse.mpr (hdrop hc))

end Text

namespace Number

/-- A text with a character that the texts of numbers lack is no number. -/
lemma ofText_of_mem {s : String} {c : Char} (hc : c ∈ s.toList) (hblank : Text.isBlank c = false)
    (hnumeral : isNumeralChar c = false) (hword : c ∉ infinityWord) : ofText s = .nan := by
  have hmem := Text.mem_trim hc hblank
  refine ofText_eq_nan (List.ne_nil_of_mem hmem) (fun sign hsign => ?_)
    (fun n => n.ne_text_of_mem hmem hnumeral)
  rw [hsign, List.mem_append] at hmem
  obtain hfront | hinfinity := hmem
  · exact Bool.eq_false_iff.mp hnumeral (List.all_eq_true.mp sign.all_text c hfront)
  · exact hword hinfinity

/-- Whether two numbers are equal as templates see it or both `nan`. -/
def Agrees (x y : Number) : Prop :=
  x.same y = true ∨ x = .nan ∧ y = .nan

/-- Numbers agree if they are one number up to the sign of zero. -/
lemma agrees_iff {x y : Number} : x.Agrees y ↔ x.unsignZero = y.unsignZero := by
  rw [Agrees, same_iff]
  refine ⟨?_, fun h => ?_⟩
  · rintro (⟨h, -⟩ | ⟨rfl, rfl⟩)
    · exact h
    · rfl
  · by_cases hx : x = nan
    · refine .inr ⟨hx, unsignZero_eq_nan_iff.mp ?_⟩
      rw [← h, hx]
      rfl
    · exact .inl ⟨h, hx⟩

end Number

namespace Value

/-- The text of an array of one item is that of the item. -/
lemma text_singleton (v : Value) : (array [v]).text = v.text := by
  rw [text, texts, texts, String.intercalate_singleton]

/-- Items are separated by commas. -/
lemma comma_mem_text (v w : Value) (items : List Value) :
    ',' ∈ (array (v :: w :: items)).text.toList := by
  rw [text, texts, texts, String.intercalate_cons_cons]
  simp

/-- The text of a value denotes the number of the value, up to the sign of zero, unless it is a
boolean. -/
lemma unsignZero_ofText_text {v : Value} (h : ∀ b, v ≠ bool b) :
    (Number.ofText v.text).unsignZero = v.toNumber.unsignZero := by
  cases v with
  | null => decide +kernel
  | bool b => exact absurd rfl (h b)
  | number x =>
    rw [text, Number.ofText_text]
    exact x.unsignZero_unsignZero
  | string s => rw [text, toNumber]
  | array items =>
    cases items with
    | nil => decide +kernel
    | cons v rest =>
      cases rest with
      | nil => rw [text_singleton, toNumber]
      | cons w items =>
        rw [Number.ofText_of_mem (comma_mem_text v w items) (by decide) (by decide) (by decide)]
        rfl
  | object fields =>
    have hnan : Number.ofText "[object Object]" = .nan := by decide +kernel
    rw [text, hnan, toNumber]

/-- As a number, an array of one boolean is `nan`. -/
lemma toNumber_singleton_bool (b : Bool) : (array [bool b]).toNumber = .nan := by
  cases b <;> decide +kernel

/-- An array with one item has the number of this item, up to the sign of zero, unless the item is a
boolean. The number of an array with one boolean is `nan`. -/
theorem toNumber_singleton (v : Value) :
    ((array [v]).toNumber.Agrees v.toNumber ↔ ∀ b, v ≠ bool b) ∧
      ∀ b, (array [bool b]).toNumber = .nan := by
  refine ⟨⟨?_, fun h => ?_⟩, toNumber_singleton_bool⟩
  · rintro hagrees b rfl
    rw [Number.agrees_iff, toNumber_singleton_bool] at hagrees
    cases b <;> exact absurd hagrees (by decide +kernel)
  · rw [Number.agrees_iff, toNumber]
    exact unsignZero_ofText_text h

/-- The array of `true` is `nan` as a number, and `true` is one. -/
theorem not_agrees_singleton_true :
    (array [bool true]).toNumber = .nan ∧ (bool true).toNumber = .ofNat 1 ∧
      ¬(array [bool true]).toNumber.Agrees (bool true).toNumber := by
  refine ⟨by decide +kernel, rfl, ?_⟩
  rw [Number.agrees_iff]
  decide +kernel

end Value

end Stencil

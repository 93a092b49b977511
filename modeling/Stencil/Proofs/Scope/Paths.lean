import Mathlib.Data.List.Induction
import Mathlib.Data.List.Nodup
import Stencil.CommandLine.Arguments
import Stencil.Evaluation.Scope
import Stencil.Proofs.Number.Digits

/-!
# Steps into arrays

A step of a path leads to an item of an array if it is the numeral of the item's index: ASCII digits
without a sign and without zeros in front. So every item is reached by one name only, although more
texts are read as counts, such as `+1` and `01` (`Value.get?_array`). Beyond its first name a path
goes on step by step from what it has reached (`Scope.resolve_append`).

Numerals are said apart from how numbers are written (`Digits.IsNumeral`). Writing and reading are
inverse to each other on them, which is an induction on the digits from the last one
(`Digits.digits_ofDigits`).
-/

namespace Stencil

namespace Digits

/-- Some characters are the numeral of a number: ASCII digits that denote it, with a zero in front
only if there is nothing else. -/
structure IsNumeral (cs : List Char) (n : Nat) : Prop where
  ne_nil : cs ≠ []
  all_isDigit : cs.all Char.isDigit = true
  eq_of_head : cs.head? = some '0' → cs = ['0']
  ofDigits_eq : ofDigits cs = n

/-- A digit is the one that is written for its value. -/
lemma digitChar_value {c : Char} (h : c.isDigit = true) : Nat.digitChar (value c) = c := by
  have hlt := value_lt h
  rw [Char.isDigit, Bool.and_eq_true, decide_eq_true_eq, decide_eq_true_eq] at h
  have hle : 48 ≤ c.toNat := UInt32.le_iff_toNat_le.mp h.1
  apply Char.toNat_inj.mp
  rw [Nat.toNat_digitChar_of_lt_ten hlt]
  change 48 + (c.toNat - 48) = c.toNat
  omega

/-- One digit is how the number that it denotes is written. -/
lemma digits_value {c : Char} (h : c.isDigit = true) : digits (value c) = [c] := by
  rw [digits, Nat.toDigits_of_lt_base (value_lt h), digitChar_value h]

/-- Only the digit `0` has the value zero. -/
lemma value_pos {c : Char} (h : c.isDigit = true) (hzero : c ≠ '0') : 0 < value c := by
  refine Nat.pos_of_ne_zero fun hvalue => hzero ?_
  rw [← digitChar_value h, hvalue]
  rfl

/-- Digits that do not begin with a zero are how the number that they denote is written. -/
lemma digits_ofDigits {cs : List Char} (hne : cs ≠ []) (hall : cs.all Char.isDigit = true)
    (hhead : cs.head? ≠ some '0') : 0 < ofDigits cs ∧ digits (ofDigits cs) = cs := by
  -- the last digit is what writing a number splits off
  induction cs using List.reverseRecOn with
  | nil => contradiction
  | append_singleton init c ih =>
    rw [List.all_append, Bool.and_eq_true, List.all_cons, List.all_nil, Bool.and_true] at hall
    obtain ⟨hinit, hc⟩ := hall
    by_cases hempty : init = []
    · subst hempty
      rw [List.nil_append, ofDigits_singleton]
      exact ⟨value_pos hc fun h => hhead (congrArg some h), digits_value hc⟩
    · rw [List.head?_append_of_ne_nil _ hempty] at hhead
      obtain ⟨hpos, hdigits⟩ := ih hempty hinit hhead
      rw [ofDigits_append, ofDigits_singleton, List.length_singleton, Nat.pow_one, Nat.mul_comm]
      refine ⟨by omega, ?_⟩
      calc digits (10 * ofDigits init + value c)
        _ = digits (ofDigits init) ++ digits (value c) :=
          (Nat.toDigits_append_toDigits (by decide) hpos (value_lt hc)).symm
        _ = init ++ [c] := by rw [hdigits, digits_value hc]

/-- Only zero is written with a zero in front. -/
lemma eq_zero_of_head_digits {n : Nat} (h : (digits n).head? = some '0') : n = 0 := by
  by_contra hne
  obtain ⟨rest, hrest⟩ := List.head?_eq_some_iff.mp h
  have hall := all_digits n
  rw [hrest, List.all_cons, Bool.and_eq_true] at hall
  have hlow : 10 ^ rest.length ≤ n := by
    have := pow_le_of_ne_zero hne
    rwa [hrest] at this
  have hvalue : n = ofDigits rest := by
    rw [← ofDigits_digits n, hrest]
    exact ofDigits_replicate_zero_append 1 rest
  exact absurd (ofDigits_lt hall.2) (Nat.not_lt.mpr (hvalue ▸ hlow))

/-- What a number is written as is its numeral, and its only one. -/
lemma isNumeral_iff {cs : List Char} {n : Nat} : IsNumeral cs n ↔ digits n = cs := by
  constructor
  · rintro ⟨hne, hall, hhead, rfl⟩
    by_cases hzero : cs.head? = some '0'
    · rw [hhead hzero]
      rfl
    · exact (digits_ofDigits hne hall hzero).2
  · rintro rfl
    refine ⟨digits_ne_nil n, all_digits n, fun h => ?_, ofDigits_digits n⟩
    rw [eq_zero_of_head_digits h]
    rfl

/-- Numerals are read as the numbers they are numerals of, and nothing else is read. -/
lemma ofNumeral?_eq_some_iff {cs : List Char} {n : Nat} :
    ofNumeral? cs = some n ↔ IsNumeral cs n := by
  refine ⟨fun h => isNumeral_iff.mpr (digits_of_ofNumeral? h), fun h => ?_⟩
  rw [ofNumeral?, h.ofDigits_eq, if_pos (isNumeral_iff.mp h)]

/-- Every number has one numeral. -/
lemma existsUnique_isNumeral (n : Nat) : ∃! s : String, IsNumeral s.toList n := by
  refine ⟨String.ofList (digits n), ?_, fun s hs => ?_⟩
  · exact isNumeral_iff.mpr String.toList_ofList.symm
  · rw [isNumeral_iff.mp hs, String.ofList_toList]

end Digits

namespace CommandLine

/-- Digits alone are read as the count that they denote, if it fits. -/
lemma count?_of_isNumeral {s : String} {n : Nat} (h : Digits.IsNumeral s.toList n) :
    count? s = if n ≤ Number.maxCount then some n else none := by
  obtain ⟨hne, hall, -, hn⟩ := h
  unfold count?
  dsimp only
  split
  · case h_1 ds hs =>
    rw [hs] at hall
    exact absurd hall (by simp)
  · case h_2 => simp only [hne, hall, hn, ne_eq, not_false_eq_true, true_and]

end CommandLine

namespace Value

variable {items : List Value}

/-- A segment takes an item of an array just if it is the numeral of its index. -/
lemma get?_array_eq_some_iff {segment : String} {v : Value} :
    (array items).get? segment = some v ↔
      ∃ i, Digits.IsNumeral segment.toList i ∧ items[i]? = some v := by
  simp only [get?, Option.bind_eq_some_iff, Digits.ofNumeral?_eq_some_iff]

/-- A step can also be read as a count that must then be written as it was. -/
lemma get?_array_eq_count? (hlength : items.length < 2 ^ 64) (segment : String) :
    (array items).get? segment =
      (CommandLine.count? segment).bind fun i => if i.repr = segment then items[i]? else none := by
  have hrepr {i : Nat} : i.repr = segment ↔ Digits.IsNumeral segment.toList i := by
    rw [Digits.isNumeral_iff, ← String.toList_inj, Nat.toList_repr, Digits.digits]
  refine Option.ext fun v => ?_
  simp only [get?_array_eq_some_iff, Option.bind_eq_some_iff, hrepr, Option.ite_none_right_eq_some]
  constructor
  · rintro ⟨i, hi, hv⟩
    -- what is in the array has an index that fits
    have hfits : i ≤ Number.maxCount := by
      have hlt := (List.getElem?_eq_some_iff.mp hv).1
      unfold Number.maxCount
      omega
    exact ⟨i, by rw [CommandLine.count?_of_isNumeral hi, if_pos hfits], hi, hv⟩
  · rintro ⟨i, -, hi, hv⟩
    exact ⟨i, hi, hv⟩

/-- In an array of different items no two steps lead to one item. -/
lemma eq_of_get?_array_eq (hitems : items.Nodup) {s t : String} {v : Value}
    (hs : (array items).get? s = some v) (ht : (array items).get? t = some v) : s = t := by
  obtain ⟨i, hi, hiv⟩ := get?_array_eq_some_iff.mp hs
  obtain ⟨j, hj, hjv⟩ := get?_array_eq_some_iff.mp ht
  obtain ⟨hi', rfl⟩ := List.getElem?_eq_some_iff.mp hiv
  obtain ⟨hj', hsame⟩ := List.getElem?_eq_some_iff.mp hjv
  obtain rfl : j = i := hitems.getElem_inj_iff.mp hsame
  exact (Digits.existsUnique_isNumeral j).unique hi hj

end Value

/-- A path goes on from what its front part leads to. -/
lemma Scope.resolve_append (scope : Scope) {p : List String} (hp : p ≠ []) (q : List String) :
    scope.resolve (p ++ q) = (scope.resolve p).bind fun v => v.follow? q := by
  cases p with
  | nil => contradiction
  | cons name rest =>
    rw [List.cons_append, resolve, resolve, Option.bind_assoc]
    exact Option.bind_congr fun v _ => v.follow?_append rest q

/-- A step leads into an array just if it is the numeral of an index within the array: to read it as
a count of 64 bits and to accept it if that count is written so comes to the same. Every number has
one numeral, so different steps never lead to the same of several different items. And a path of two
parts goes on from what the first part leads to, step by step. -/
theorem Value.get?_array {items : List Value} (hlength : items.length < 2 ^ 64) :
    (∀ segment v, (array items).get? segment = some v ↔
      ∃ i, Digits.IsNumeral segment.toList i ∧ items[i]? = some v) ∧
    (∀ segment, (array items).get? segment =
      (CommandLine.count? segment).bind fun i => if i.repr = segment then items[i]? else none) ∧
    (∀ i, ∃! segment : String, Digits.IsNumeral segment.toList i) ∧
    (items.Nodup → ∀ s t v, (array items).get? s = some v → (array items).get? t = some v → s = t) ∧
    ∀ (scope : Scope) (p q : List String), p ≠ [] →
      scope.resolve (p ++ q) = (scope.resolve p).bind fun v => v.follow? q := by
  refine ⟨fun _ _ => get?_array_eq_some_iff, get?_array_eq_count? hlength,
    Digits.existsUnique_isNumeral, fun hitems _ _ _ => eq_of_get?_array_eq hitems, ?_⟩
  exact fun scope _ q hp => scope.resolve_append hp q

/-- Eleven items. -/
def elevenItems : List Value :=
  (List.range 11).map fun i => .string i.repr

/-- `10` leads to the last item, `010` and `+10` are counts as well but lead nowhere. -/
theorem Value.get?_array_elevenItems :
    elevenItems.length < 2 ^ 64 ∧
      (array elevenItems).get? "10" = some (.string "10") ∧
      CommandLine.count? "010" = some 10 ∧ (array elevenItems).get? "010" = none ∧
      CommandLine.count? "+10" = some 10 ∧ (array elevenItems).get? "+10" = none := by
  have hlength : elevenItems.length < 2 ^ 64 := by decide
  obtain ⟨hnumeral, hcount, -⟩ := Value.get?_array hlength
  have hten : Digits.IsNumeral "10".toList 10 := ⟨by decide, by decide, by decide, by decide⟩
  refine ⟨hlength, (hnumeral _ _).mpr ⟨10, hten, rfl⟩, by decide, ?_, by decide, ?_⟩
  · rw [hcount]
    decide
  · rw [hcount]
    decide

end Stencil

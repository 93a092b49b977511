import Mathlib.Tactic.Lemma
import Stencil.Proofs.Source.Token

/-!
# Strings between quotes

Where a string ends depends on the backslashes in it: from left to right, each one takes the next
character with it, which may be a quote or another backslash. A string ends at the first quote that
is not taken (`ClosesFirst`). If there is none, the string is empty, and what follows its opening
quote is left to be read again.

`quotedText?_eq_some_iff` says just when the reader finds an end, and what it makes of the text
before it.
-/

namespace Stencil

open Reader

/-- Whether the character after a text is taken by a backslash at the end of it. -/
def takesNext (s : List Char) : Bool :=
  s.foldl (fun taken c => !taken && c == '\\') false

/-- At some place of a text there is a quote that no backslash takes. -/
def ClosesAt (quote : Char) (s : List Char) (i : Nat) : Prop :=
  s[i]? = some quote ∧ takesNext (s.take i) = false

/-- The first such place. -/
def ClosesFirst (quote : Char) (s : List Char) (i : Nat) : Prop :=
  ClosesAt quote s i ∧ ∀ j < i, ¬ClosesAt quote s j

/-- What stands for other characters behind a backslash. -/
def escapes (quote : Char) : List (Char × Char) :=
  [('n', '\n'), ('t', '\t'), ('r', '\r'), ('\\', '\\'), (quote, quote)]

/-- What a text between two quotes stands for. A pair of a backslash and a character that is no
escape stands for itself. -/
def decodeQuoted (quote : Char) : List Char → List Char
  | '\\' :: c :: s => ((escapes quote).lookup c).elim ['\\', c] ([·]) ++ decodeQuoted quote s
  | c :: s => c :: decodeQuoted quote s
  | [] => []

/-- A character in front that is no backslash takes nothing. -/
lemma takesNext_cons {c : Char} (hc : c ≠ '\\') (s : List Char) :
    takesNext (c :: s) = takesNext s := by
  rw [takesNext, List.foldl_cons, beq_eq_false_iff_ne.mpr hc]
  rfl

/-- A backslash in front takes the character after it and no other. -/
lemma takesNext_pair (d : Char) (s : List Char) : takesNext ('\\' :: d :: s) = takesNext s :=
  rfl

/-- A character that is no backslash stands for itself. -/
lemma decodeQuoted_cons {quote c : Char} (hc : c ≠ '\\') (s : List Char) :
    decodeQuoted quote (c :: s) = c :: decodeQuoted quote s := by
  rw [decodeQuoted]
  rintro d r rfl rfl
  exact hc rfl

section
variable {quote c d : Char} {s : List Char} {i : Nat}

/-- If a text closes somewhere, there is a first place. -/
lemma exists_closesFirst (h : ∃ i, ClosesAt quote s i) : ∃ i, ClosesFirst quote s i := by
  classical
  exact ⟨Nat.find h, Nat.find_spec h, fun j hj => Nat.find_min h hj⟩

/-- The empty text closes nowhere. -/
lemma not_closesAt_nil : ¬ClosesAt quote [] i := by
  rintro ⟨hquote, -⟩
  cases hquote

/-- A text closes at its first character if this is the quote. -/
lemma closesAt_zero_iff : ClosesAt quote (c :: s) 0 ↔ c = quote := by
  rw [ClosesAt, List.getElem?_cons_zero, Option.some.injEq]
  exact and_iff_left rfl

/-- A text that begins with the quote closes there. -/
lemma closesFirst_zero : ClosesFirst quote (quote :: s) 0 :=
  ⟨closesAt_zero_iff.mpr rfl, fun _ hj => absurd hj (Nat.not_lt_zero _)⟩

/-- A text that begins with the quote closes there first. -/
lemma closesFirst_quote_iff : ClosesFirst quote (quote :: s) i ↔ i = 0 := by
  refine ⟨fun h => ?_, ?_⟩
  · by_contra hi
    exact h.2 0 (Nat.pos_of_ne_zero hi) closesFirst_zero.1
  · rintro rfl
    exact closesFirst_zero

/-- What closes nowhere at its beginning, and behind that just where another text does, closes first
by so many places later. -/
lemma closesFirst_shift_iff {t : List Char} {n : Nat} (hbegin : ∀ j < n, ¬ClosesAt quote t j)
    (hshift : ∀ j, ClosesAt quote t (j + n) ↔ ClosesAt quote s j) :
    ClosesFirst quote t i ↔ ∃ k, i = k + n ∧ ClosesFirst quote s k := by
  constructor
  · rintro ⟨hcloses, hfirst⟩
    have hle : n ≤ i := Nat.le_of_not_lt fun hlt => hbegin i hlt hcloses
    obtain ⟨k, rfl⟩ := Nat.exists_eq_add_of_le' hle
    refine ⟨k, rfl, (hshift k).mp hcloses, fun j hj h => ?_⟩
    exact hfirst (j + n) (Nat.add_lt_add_right hj n) ((hshift j).mpr h)
  · rintro ⟨k, rfl, hcloses, hfirst⟩
    refine ⟨(hshift k).mpr hcloses, fun j hj => ?_⟩
    by_cases hlt : j < n
    · exact hbegin j hlt
    · obtain ⟨m, rfl⟩ := Nat.exists_eq_add_of_le' (Nat.le_of_not_lt hlt)
      rw [hshift]
      exact hfirst m (Nat.lt_of_add_lt_add_right hj)

/-- A character that is neither the quote nor a backslash moves the end by one place. -/
lemma closesFirst_cons_iff (hc : c ≠ '\\') (hquote : c ≠ quote) :
    ClosesFirst quote (c :: s) i ↔ ∃ k, i = k + 1 ∧ ClosesFirst quote s k := by
  refine closesFirst_shift_iff (fun j hj => ?_) fun j => ?_
  · rw [Nat.lt_one_iff.mp hj]
    exact fun h => hquote (closesAt_zero_iff.mp h)
  · rw [ClosesAt, List.getElem?_cons_succ, List.take_succ_cons, takesNext_cons hc, ClosesAt]

/-- A backslash and the character behind it move the end by two places. -/
lemma closesFirst_pair_iff (hslash : quote ≠ '\\') :
    ClosesFirst quote ('\\' :: d :: s) i ↔ ∃ k, i = k + 2 ∧ ClosesFirst quote s k := by
  refine closesFirst_shift_iff (fun j hj => ?_) fun j => ?_
  · obtain rfl | rfl : j = 0 ∨ j = 1 := by omega
    · exact fun h => hslash (closesAt_zero_iff.mp h).symm
    · rintro ⟨-, htaken⟩
      cases htaken
  · rw [ClosesAt, List.getElem?_cons_succ, List.getElem?_cons_succ, List.take_succ_cons,
      List.take_succ_cons, takesNext_pair, ClosesAt]

end

/-- A text of one character closes only if that is the quote. -/
lemma not_closesAt_singleton {quote c : Char} {i : Nat} (h : c ≠ quote) :
    ¬ClosesAt quote [c] i := by
  cases i with
  | zero => exact fun hcloses => h (closesAt_zero_iff.mp hcloses)
  | succ i =>
    rintro ⟨hquote, -⟩
    cases hquote

section
variable {quote : Char} {s : List Char}

/-- A text with a closing quote is taken up to it. -/
lemma run_quotedText_some {p : List Char × List Char} (h : quotedText? quote s = some p) :
    (quotedText quote).run s = (String.ofList p.1, p.2) := by
  unfold quotedText
  dsimp only
  rw [h]

/-- Without a closing quote nothing is taken. -/
lemma run_quotedText_none (h : quotedText? quote s = none) :
    (quotedText quote).run s = ("", s) := by
  unfold quotedText
  dsimp only
  rw [h]

end

/-- What the reader finds, with more in front of it that holds no end. -/
lemma map_eq_some_iff_closesFirst {quote : Char} {s t : List Char} {n : Nat}
    {f : List Char → List Char} {found : Option (List Char × List Char)}
    (hfound : ∀ p, found = some p ↔
      ∃ i, ClosesFirst quote s i ∧ p = (decodeQuoted quote (s.take i), s.drop (i + 1)))
    (hshift : ∀ i, ClosesFirst quote t i ↔ ∃ k, i = k + n ∧ ClosesFirst quote s k)
    (hdecode : ∀ k, decodeQuoted quote (t.take (k + n)) = f (decodeQuoted quote (s.take k)))
    (hdrop : ∀ k, t.drop (k + n + 1) = s.drop (k + 1)) (p : List Char × List Char) :
    (found.map fun q => (f q.1, q.2)) = some p ↔
      ∃ i, ClosesFirst quote t i ∧ p = (decodeQuoted quote (t.take i), t.drop (i + 1)) := by
  rw [Option.map_eq_some_iff]
  constructor
  · rintro ⟨q, hq, rfl⟩
    obtain ⟨k, hk, rfl⟩ := (hfound q).mp hq
    refine ⟨k + n, (hshift _).mpr ⟨k, rfl, hk⟩, ?_⟩
    rw [hdecode, hdrop]
  · rintro ⟨i, hi, rfl⟩
    obtain ⟨k, rfl, hk⟩ := (hshift i).mp hi
    refine ⟨_, (hfound _).mpr ⟨k, hk, rfl⟩, ?_⟩
    rw [hdecode, hdrop]

section
variable {quote : Char} (hquote : quote = '"' ∨ quote = '\'')
include hquote

/-- A quote is no backslash. -/
lemma quote_ne_backslash : quote ≠ '\\' := by
  obtain rfl | rfl := hquote
  · decide
  · decide

/-- The reader takes a pair for what the list of escapes says. -/
lemma unescape_eq_elim_lookup (c : Char) :
    unescape quote c = ((escapes quote).lookup c).elim ['\\', c] ([·]) := by
  unfold unescape escapes
  by_cases hn : c = 'n'
  · subst hn
    rfl
  by_cases ht : c = 't'
  · subst ht
    rfl
  by_cases hr : c = 'r'
  · subst hr
    rfl
  by_cases hslash : c = '\\'
  · subst hslash
    rfl
  by_cases hq : c = quote
  · subst hq
    obtain rfl | rfl := hquote
    · rfl
    · rfl
  · simp only [List.lookup_cons, beq_eq_false_iff_ne.mpr hn, beq_eq_false_iff_ne.mpr ht,
      beq_eq_false_iff_ne.mpr hr, beq_eq_false_iff_ne.mpr hslash, beq_eq_false_iff_ne.mpr hq,
      hn, ht, hr, hslash, hq, or_self, if_false, List.lookup_nil, Option.elim_none]

/-- The reader finds the first quote that no backslash takes, and decodes what stands before it. -/
theorem quotedText?_eq_some_iff {s : List Char} {p : List Char × List Char} :
    quotedText? quote s = some p ↔
      ∃ i, ClosesFirst quote s i ∧ p = (decodeQuoted quote (s.take i), s.drop (i + 1)) := by
  have hslash := quote_ne_backslash hquote
  fun_induction quotedText? quote s generalizing p with
  | case1 =>
    refine iff_of_false (Option.some_ne_none p).symm ?_
    rintro ⟨i, hfirst, -⟩
    exact not_closesAt_nil hfirst.1
  | case2 =>
    simp only [closesFirst_quote_iff, exists_eq_left, Option.some.injEq]
    exact eq_comm
  | case3 c hc =>
    refine iff_of_false (Option.some_ne_none p).symm ?_
    rintro ⟨i, hfirst, -⟩
    exact not_closesAt_singleton hc hfirst.1
  | case4 d s =>
    simp only [closesFirst_quote_iff, exists_eq_left, Option.some.injEq]
    exact eq_comm
  | case5 d s hc ih =>
    refine map_eq_some_iff_closesFirst (f := (unescape quote d ++ ·)) (fun _ => ih)
      (fun _ => closesFirst_pair_iff hslash) (fun k => ?_) (fun _ => rfl) p
    rw [unescape_eq_elim_lookup hquote]
    rfl
  | case6 c d s hc hb ih =>
    refine map_eq_some_iff_closesFirst (f := (c :: ·)) (fun _ => ih)
      (fun _ => closesFirst_cons_iff hb hc) (fun k => ?_) (fun _ => rfl) p
    rw [List.take_succ_cons, decodeQuoted_cons hb]

/-- Where no quote is free, the reader finds no end. -/
lemma quotedText?_eq_none {s : List Char} (h : ∀ i, ¬ClosesAt quote s i) :
    quotedText? quote s = none := by
  cases hread : quotedText? quote s with
  | none => rfl
  | some p =>
    obtain ⟨i, hfirst, -⟩ := (quotedText?_eq_some_iff hquote).mp hread
    exact absurd hfirst.1 (h i)

/-- Behind an opening quote, a string is what stands before the first quote that no backslash takes,
decoded, and reading goes on behind that quote. If there is none the string is empty, and reading
goes on behind the opening quote. There is a string for every text. -/
theorem run_primary_string (inner : ExprReader) (s : List Char) :
    ((∃ i, ClosesAt quote s i) → ∃ i, ClosesFirst quote s i ∧
      (primary inner).run (quote :: s) =
        (.literal (.string (String.ofList (decodeQuoted quote (s.take i)))), s.drop (i + 1))) ∧
    ((∀ i, ¬ClosesAt quote s i) →
      (primary inner).run (quote :: s) = (.literal (.string ""), s)) ∧
    ∀ t : String, ∃ inside, ∀ rest,
      (primary inner).run (quote :: (inside ++ quote :: rest)) = (.literal (.string t), rest) := by
  refine ⟨fun h => ?_, fun h => ?_, fun t => ?_⟩
  · obtain ⟨i, hfirst⟩ := exists_closesFirst h
    have hread := (quotedText?_eq_some_iff hquote).mpr ⟨i, hfirst, rfl⟩
    refine ⟨i, hfirst, ?_⟩
    rw [run_primary_quote hquote, run_quotedText_some hread]
  · rw [run_primary_quote hquote, run_quotedText_none (quotedText?_eq_none hquote h)]
  · refine ⟨t.toList.flatMap (escapeQuoted quote), fun rest => ?_⟩
    rw [run_primary_quote hquote, run_quotedText_some (quotedText?_escapeQuoted hquote _),
      String.ofList_toList]

end

/-- The inside of a string with an escaped quote, a pair that is no escape, and two backslashes
before its end, and what follows it. -/
def backslashes : List Char :=
  ['a', '\\', '"', '\\', 'd', '\\', '\\', '"', '|', 'f']

/-- An escaped quote does not end a string, and one behind two backslashes does; behind a backslash
at the end of the text there is none. -/
theorem run_primary_string_of_backslashes :
    ('"' = '"' ∨ '"' = '\'') ∧
      ((∃ i, ClosesAt '"' backslashes i) ∧
        ∃ i, ClosesFirst '"' backslashes i ∧ (primary (expression 1)).run ('"' :: backslashes) =
          (.literal (.string (String.ofList (decodeQuoted '"' (backslashes.take i)))),
            backslashes.drop (i + 1))) ∧
      (∀ i, ¬ClosesAt '"' ['\\'] i) ∧
        (primary (expression 1)).run ['"', '\\'] = (.literal (.string ""), ['\\']) := by
  have hquote : '"' = '"' ∨ '"' = '\'' := .inl rfl
  have hcloses : ∃ i, ClosesAt '"' backslashes i := ⟨7, rfl, rfl⟩
  have hopen : ∀ i, ¬ClosesAt '"' ['\\'] i := fun _ => not_closesAt_singleton (by decide)
  exact ⟨hquote, ⟨hcloses, (run_primary_string hquote (expression 1) backslashes).1 hcloses⟩, hopen,
    (run_primary_string hquote (expression 1) ['\\']).2.1 hopen⟩

end Stencil

import Stencil.Proofs.Number.Digits
import Stencil.Proofs.Number.Numeral

/-!
# Texts as numbers

A text denotes a number apart from the blanks around it: nothing is zero, the word for an infinite
number may have a sign, and a numeral denotes the number nearest to its decimal. No other text
denotes one.

A numeral is read right if its exponent is: all digits of the exponent count, or those that count
outweigh the rest of the numeral (`Numeral.CountsExponent`). This holds of every numeral that is not
absurdly long (`Numeral.countsExponent_of_length`), though not of all (`longNumeral_misread`).

Main statement: the number of a text (`Value.toNumber_string`).
-/

namespace Stencil

/-- The characters of which numerals are made. -/
def isNumeralChar (c : Char) : Bool :=
  c.isDigit || c == '.' || c == 'e' || c == 'E' || c == '+' || c == '-'

/-- A digit is a character of numerals. -/
lemma isNumeralChar_of_isDigit {c : Char} (h : c.isDigit = true) : isNumeralChar c = true := by
  simp [isNumeralChar, h]

/-- A character of a numeral is no blank. -/
lemma isBlank_of_isNumeralChar {c : Char} (h : isNumeralChar c = true) :
    Text.isBlank c = false := by
  simp only [isNumeralChar, Bool.or_eq_true, beq_iff_eq] at h
  obtain ((((hdigit | rfl) | rfl) | rfl) | rfl) | rfl := h
  · exact isBlank_of_isWordChar (isWordChar_of_isDigit hdigit)
  all_goals decide

/-- The characters of a sign are those of numerals. -/
lemma Sign.all_text (sign : Sign) : sign.text.all isNumeralChar = true := by
  cases sign <;> decide

/-- Digits are characters of numerals. -/
lemma all_of_all_isDigit {ds : List Char} (h : ds.all Char.isDigit = true) :
    ds.all isNumeralChar = true :=
  List.all_eq_true.mpr fun c hc => isNumeralChar_of_isDigit (List.all_eq_true.mp h c hc)

/-- The characters of an exponent are those of numerals. -/
lemma Exponent.all_text (x : Exponent) : x.text.all isNumeralChar = true := by
  have hmark : isNumeralChar x.mark = true := by
    obtain h | h := x.mark_eq <;> rw [h] <;> decide
  rw [text, List.all_cons, List.all_append, hmark, x.sign.all_text, all_of_all_isDigit x.all_digits]
  rfl

namespace Numeral

variable (n : Numeral)

/-- A numeral is made of characters of numerals. -/
lemma all_text : n.text.all isNumeralChar = true := by
  have hexponent : n.exponentText.all isNumeralChar = true := by
    rw [exponentText]
    cases n.exponent with
    | none => rfl
    | some x => exact x.all_text
  have hfraction := all_of_all_isDigit n.all_fraction
  rw [text, unsigned, afterWhole, List.all_append, List.all_append, List.all_append,
    n.sign.all_text, all_of_all_isDigit n.all_whole, hexponent]
  cases hcase : n.fraction with
  | none => rfl
  | some fraction =>
    rw [hcase, Option.getD_some] at hfraction
    simp only [Option.elim_some, List.all_cons, hfraction]
    decide

/-- A numeral has a digit. -/
lemma exists_isDigit : ∃ c ∈ n.text, c.isDigit = true := by
  obtain ⟨c, hc⟩ := List.exists_mem_of_ne_nil _ n.digits_ne_nil
  have hdigits : (n.whole ++ n.fraction.getD []).all Char.isDigit = true := by
    rw [List.all_append, n.all_whole, n.all_fraction]
    rfl
  refine ⟨c, ?_, List.all_eq_true.mp hdigits c hc⟩
  rw [text, unsigned, afterWhole]
  cases hcase : n.fraction with
  | none =>
    rw [hcase, Option.getD_none, List.append_nil] at hc
    simp [hc]
  | some fraction =>
    rw [hcase, Option.getD_some, List.mem_append] at hc
    obtain hc | hc := hc <;> simp [hc]

/-- Without its sign a numeral begins with a digit or a point. -/
lemma headNot_unsigned {p : Char → Bool} (hdigit : ∀ c, c.isDigit = true → p c = false)
    (hpoint : p '.' = false) : HeadNot p n.unsigned := by
  cases hwhole : n.whole with
  | cons c whole =>
    have hall := n.all_whole
    rw [hwhole, List.all_cons, Bool.and_eq_true] at hall
    rw [unsigned, hwhole]
    exact headNot_cons (hdigit c hall.1)
  | nil =>
    have hne := n.digits_ne_nil
    rw [hwhole, List.nil_append] at hne
    rw [unsigned, hwhole, List.nil_append, afterWhole]
    cases hcase : n.fraction with
    | none =>
      rw [hcase] at hne
      exact absurd rfl hne
    | some fraction => exact headNot_cons hpoint

/-- A numeral is not empty. -/
lemma text_ne_nil : n.text ≠ [] := by
  obtain ⟨c, hc, -⟩ := n.exists_isDigit
  exact List.ne_nil_of_mem hc

/-- A text with a character that no numeral has is none. -/
lemma ne_text_of_mem {t : List Char} {c : Char} (hc : c ∈ t) (h : isNumeralChar c = false) :
    t ≠ n.text := by
  rintro rfl
  exact Bool.eq_false_iff.mp h (List.all_eq_true.mp n.all_text c hc)

/-- The word for an infinite number is no numeral. -/
lemma unsigned_ne_infinityWord : n.unsigned ≠ infinityWord := by
  intro h
  have hhead : HeadNot (· == 'I') n.unsigned := by
    refine n.headNot_unsigned (fun c hc => ?_) (by decide)
    refine beq_eq_false_iff_ne.mpr ?_
    rintro rfl
    cases hc
  rw [h] at hhead
  exact absurd (hhead 'I' rfl) (by decide)

end Numeral

namespace Text

/-- A text without blanks has nothing to trim. -/
lemma trim_eq_self {s : List Char} (h : ∀ c ∈ s, isBlank c = false) : trim s = s := by
  have hfront : HeadNot isBlank s := fun c hc => h c (List.mem_of_mem_head? hc)
  have hback : HeadNot isBlank s.reverse := fun c hc =>
    h c (List.mem_reverse.mp (List.mem_of_mem_head? hc))
  rw [trim, hfront.dropWhile_eq_self, hback.dropWhile_eq_self, List.reverse_reverse]

end Text

namespace Number

variable {s : String}

/-- A numeral is read as the number nearest to its decimal. -/
lemma ofText_of_numeral {n : Numeral} (h : Text.trim s.toList = n.text) :
    ofText s = .ofDecimal n.sign.isMinus n.read := by
  have hhead : HeadNot Sign.isSign n.unsigned :=
    n.headNot_unsigned (fun _ => isSign_of_isDigit) (by decide)
  rw [ofText, h, if_neg n.text_ne_nil]
  rw [Numeral.text, n.sign.takeSign_append hhead, if_neg n.unsigned_ne_infinityWord,
    n.ofText?_unsigned]

/-- A text that is none of these denotes no number. -/
lemma ofText_eq_nan (hne : Text.trim s.toList ≠ [])
    (hinfinity : ∀ sign : Sign, Text.trim s.toList ≠ sign.text ++ infinityWord)
    (hnumeral : ∀ n : Numeral, Text.trim s.toList ≠ n.text) : ofText s = .nan := by
  obtain ⟨sign, -, hsign⟩ := Sign.exists_takeSign (Text.trim s.toList)
  have hbody : (takeSign (Text.trim s.toList)).2 ≠ infinityWord := by
    intro h
    rw [h] at hsign
    exact hinfinity sign hsign.symm
  have hnone : Decimal.ofText? (takeSign (Text.trim s.toList)).2 = none := by
    refine Option.eq_none_iff_forall_ne_some.mpr fun d hd => ?_
    obtain ⟨n, hn, hunsigned⟩ := Numeral.exists_of_ofText? hd sign
    refine hnumeral n ?_
    rw [Numeral.text, hn, hunsigned, hsign]
  rw [ofText, if_neg hne, if_neg hbody, hnone]

/-- A decimal has a number. -/
lemma ofDecimal_ne_nan (negative : Bool) (d : Decimal) : ofDecimal negative d ≠ .nan := by
  rw [ofDecimal]
  cases d.nearest? with
  | none => exact nofun
  | some m => exact nofun

end Number

namespace Number

variable {negative : Bool}

/-- Decimals of one coefficient with exponents above 400 are read alike. -/
lemma ofDecimal_eq_of_large {d e : Decimal} (h : d.coefficient = e.coefficient)
    (hd : 400 < d.exponent) (he : 400 < e.exponent) :
    ofDecimal negative d = ofDecimal negative e := by
  rw [ofDecimal, ofDecimal, Decimal.nearest?, Decimal.nearest?, h, if_pos hd, if_pos he]

/-- A decimal that begins more than 400 places behind the point is read as zero. -/
lemma ofDecimal_eq_zero {d : Decimal} {k : Nat} (hcoefficient : d.coefficient < 10 ^ k)
    (hsmall : d.exponent + k ≤ -400) : ofDecimal negative d = .finite ⟨negative, .zero⟩ :=
  (isNearest_ofDecimal negative d).unique
    (isNearest_zero d.value_nonneg (d.value_lt_of_lt_pow hcoefficient hsmall))

end Number

namespace Numeral

variable (n : Numeral)

/-- The exponent is read right: all of its digits count, or those that count outweigh the rest of
the numeral, so that the others make no difference. -/
def CountsExponent : Prop :=
  ∀ x ∈ n.exponent, Decimal.exponentOf x.digits = Digits.ofDigits x.digits ∨
    n.text.length + 400 < Decimal.exponentOf x.digits

/-- The digits of a numeral are characters of its text. -/
lemma length_digits_le : n.whole.length + n.fractionDigits.length ≤ n.text.length := by
  rw [text, unsigned, afterWhole, fractionDigits]
  cases n.fraction with
  | none =>
    simp only [Option.getD_none, List.length_nil, List.length_append]
    omega
  | some fraction =>
    simp only [Option.getD_some, Option.elim_some, List.length_cons, List.length_append]
    omega

/-- The digits of a numeral bound its coefficient. -/
lemma coefficient_lt (e : Int) :
    (n.scaled e).coefficient < 10 ^ (n.whole.length + n.fractionDigits.length) := by
  rw [← List.length_append]
  refine Digits.ofDigits_lt ?_
  rw [List.all_append, n.all_whole, Bool.true_and]
  exact n.all_fraction

variable {n}

/-- Exponents that outweigh the other characters of a numeral all lead to the same number. -/
lemma ofDecimal_scaled_eq {negative : Bool} (sign : Sign) {k l : Nat}
    (hk : n.text.length + 400 < k) (hl : n.text.length + 400 < l) :
    Number.ofDecimal negative (n.scaled (sign.apply k)) =
      Number.ofDecimal negative (n.scaled (sign.apply l)) := by
  have hlength := n.length_digits_le
  rw [Sign.apply, Sign.apply]
  cases sign.isMinus with
  | true =>
    rw [if_pos rfl, if_pos rfl, Number.ofDecimal_eq_zero (n.coefficient_lt _),
      Number.ofDecimal_eq_zero (n.coefficient_lt _)]
    all_goals
      rw [scaled]
      push_cast
      omega
  | false =>
    rw [if_neg Bool.false_ne_true, if_neg Bool.false_ne_true]
    refine Number.ofDecimal_eq_of_large rfl ?_ ?_
    all_goals
      rw [scaled]
      dsimp only
      omega

/-- A numeral whose exponent is read right has the number nearest to the decimal it denotes. -/
lemma CountsExponent.ofDecimal_read (h : n.CountsExponent) (negative : Bool) :
    Number.ofDecimal negative n.read = Number.ofDecimal negative n.denoted := by
  rw [read, denoted]
  cases hcase : n.exponent with
  | none => rfl
  | some x =>
    rw [Option.elim_some, Option.elim_some, Exponent.read, Exponent.value]
    obtain heq | hlarge := h x hcase
    · rw [heq]
    · refine ofDecimal_scaled_eq x.sign hlarge ?_
      obtain heq | ⟨-, hle⟩ := Decimal.exponentOf_eq_or_le x.digits
      · omega
      · omega

end Numeral

/-- `0.000…1e655360`, with 65535 zeros behind the point. -/
def longNumeral : Numeral where
  sign := .absent
  whole := ['0']
  fraction := some (List.replicate 65535 '0' ++ ['1'])
  exponent := some (.small .absent ['6', '5', '5', '3', '6', '0'] nofun rfl)
  all_whole := rfl
  all_fraction := by
    rw [Option.getD_some, List.all_append, List.all_replicate]
    decide
  digits_ne_nil := nofun

/-- This numeral as a text. -/
def longText : String := String.ofList longNumeral.text

/-- Not every exponent is read right. That of this numeral is read as 65536, which the digits bring
back to nothing, so it is read as one. But it denotes a decimal above all magnitudes. -/
theorem longNumeral_misread :
    Text.trim longText.toList = longNumeral.text ∧ longNumeral.denoted = ⟨1, 589824⟩ ∧
      (Value.string longText).toNumber = .ofNat 1 ∧
      ¬(Value.string longText).toNumber.IsNearest false longNumeral.denoted.value := by
  have htrim : Text.trim longText.toList = longNumeral.text := by
    rw [longText, String.toList_ofList]
    exact Text.trim_eq_self fun c hc =>
      isBlank_of_isNumeralChar (List.all_eq_true.mp longNumeral.all_text c hc)
  have hscaled (e : Int) : longNumeral.scaled e = ⟨1, e - 65536⟩ := by
    have hfraction : longNumeral.fractionDigits = List.replicate 65535 '0' ++ ['1'] := rfl
    have hwhole : longNumeral.whole = List.replicate 1 '0' := rfl
    rw [Numeral.scaled, hfraction, hwhole, ← List.append_assoc, List.replicate_append_replicate,
      Digits.ofDigits_append, Digits.ofDigits_replicate_zero, Nat.zero_mul, Nat.zero_add,
      List.length_append, List.length_replicate]
    rfl
  have hdenoted : longNumeral.denoted = ⟨1, 589824⟩ := hscaled _
  have hread : (Value.string longText).toNumber = .ofNat 1 := by
    rw [Value.toNumber, Number.ofText_of_numeral htrim, Numeral.read, hscaled]
    decide +kernel
  refine ⟨htrim, hdenoted, hread, fun h => ?_⟩
  rw [hread, hdenoted] at h
  exact absurd (h.unique (Number.isNearest_ofDecimal false ⟨1, 589824⟩)) (by decide +kernel)

end Stencil

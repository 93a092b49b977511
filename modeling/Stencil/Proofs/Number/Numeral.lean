import Mathlib.Tactic.Lemma
import Stencil.Proofs.Number.Decimal
import Stencil.Proofs.Reading.Heads
import Stencil.Value.Coercion

/-!
# Decimal numerals

A `Numeral` is a way to write a decimal: an optional sign, digits with an optional point among or
beside them, and an optional exponent. Reading takes just the texts of numerals as decimals: each is
read in full (`Numeral.ofText?_unsigned`), and what is read was a numeral
(`Numeral.exists_of_ofText?`).

The digits of an exponent count only until their value has reached 65536. So there are two decimals
for a numeral, the one it denotes and the one that is read.
-/

namespace Stencil

/-- A sign in front of digits; there need not be one. -/
inductive Sign
  | absent
  | plus
  | minus
deriving DecidableEq

namespace Sign

/-- A sign as text. -/
def text : Sign → List Char
  | absent => []
  | plus => ['+']
  | minus => ['-']

/-- Whether the sign is a minus. -/
def isMinus : Sign → Bool
  | absent => false
  | plus => false
  | minus => true

/-- A natural number with a sign. -/
def apply (sign : Sign) (n : Nat) : Int :=
  if sign.isMinus then -n else n

/-- The characters that are signs. -/
def isSign (c : Char) : Bool :=
  c == '+' || c == '-'

/-- A sign is taken in front of what does not begin with another one. -/
lemma takeSign_append (sign : Sign) {s : List Char} (h : HeadNot isSign s) :
    takeSign (sign.text ++ s) = (sign.isMinus, s) := by
  cases sign with
  | plus => rfl
  | minus => rfl
  | absent =>
    rw [text, List.nil_append, takeSign]
    · rfl
    · rintro t rfl
      exact absurd (h _ rfl) (by decide)
    · rintro t rfl
      exact absurd (h _ rfl) (by decide)

/-- What is taken is a sign. -/
lemma exists_takeSign (s : List Char) :
    ∃ sign : Sign, sign.isMinus = (takeSign s).1 ∧ sign.text ++ (takeSign s).2 = s := by
  unfold takeSign
  split
  · exact ⟨minus, rfl, rfl⟩
  · exact ⟨plus, rfl, rfl⟩
  · exact ⟨absent, rfl, rfl⟩

end Sign

/-- Digits are no signs. -/
lemma isSign_of_isDigit {c : Char} (h : c.isDigit = true) : Sign.isSign c = false := by
  cases hc : Sign.isSign c with
  | false => rfl
  | true =>
    rw [Sign.isSign, Bool.or_eq_true, beq_iff_eq, beq_iff_eq] at hc
    obtain rfl | rfl := hc <;> cases h

/-- What begins with digits, and has one, does not begin outside their class. -/
lemma headNot_digits_append {p : Char → Bool} {ds s : List Char} (hds : ds.all Char.isDigit = true)
    (hp : ∀ c, c.isDigit = true → p c = false) (hs : HeadNot p s) : HeadNot p (ds ++ s) := by
  cases ds with
  | nil => exact hs
  | cons c ds =>
    rw [List.all_cons, Bool.and_eq_true] at hds
    exact headNot_cons (hp c hds.1)

/-- The end of a numeral that scales it by a power of ten. -/
structure Exponent where
  mark : Char
  sign : Sign
  digits : List Char
  mark_eq : mark = 'e' ∨ mark = 'E'
  digits_ne_nil : digits ≠ []
  all_digits : digits.all Char.isDigit = true

namespace Exponent

/-- An exponent marked by a small letter. -/
def small (sign : Sign) (digits : List Char) (hne : digits ≠ [])
    (hall : digits.all Char.isDigit = true) : Exponent :=
  ⟨'e', sign, digits, .inl rfl, hne, hall⟩

/-- An exponent as text. -/
def text (x : Exponent) : List Char :=
  x.mark :: (x.sign.text ++ x.digits)

/-- The exponent that is denoted. -/
def value (x : Exponent) : Int :=
  x.sign.apply (Digits.ofDigits x.digits)

/-- The exponent that is read. -/
def read (x : Exponent) : Int :=
  x.sign.apply (Decimal.exponentOf x.digits)

/-- The text of an exponent is read to its end. -/
lemma exponent?_text (x : Exponent) : Decimal.exponent? x.text = some x.read := by
  have hhead : HeadNot Sign.isSign x.digits := by
    rw [← List.append_nil x.digits]
    exact headNot_digits_append x.all_digits (fun _ => isSign_of_isDigit) nofun
  rw [text, Decimal.exponent?, x.sign.takeSign_append hhead,
    if_pos ⟨x.mark_eq, x.digits_ne_nil, x.all_digits⟩]
  rfl

/-- What is read as an exponent is one, or it is nothing. -/
lemma exists_of_exponent? {s : List Char} {e : Int} (h : Decimal.exponent? s = some e) :
    ∃ x : Option Exponent, x.elim [] text = s := by
  cases s with
  | nil => exact ⟨none, rfl⟩
  | cons c s =>
    obtain ⟨sign, -, hsign⟩ := Sign.exists_takeSign s
    rw [Decimal.exponent?, Option.ite_none_right_eq_some] at h
    obtain ⟨⟨hmark, hne, hall⟩, -⟩ := h
    refine ⟨some ⟨c, sign, (takeSign s).2, hmark, hne, hall⟩, ?_⟩
    rw [Option.elim_some, text, hsign]

end Exponent

/-- A decimal as it is written: digits, of which some may stand behind a point, at least one of
them, between an optional sign and an optional exponent. -/
structure Numeral where
  sign : Sign
  whole : List Char
  fraction : Option (List Char)
  exponent : Option Exponent
  all_whole : whole.all Char.isDigit = true
  all_fraction : (fraction.getD []).all Char.isDigit = true
  digits_ne_nil : whole ++ fraction.getD [] ≠ []

namespace Numeral

/-- The digits behind the point. -/
def fractionDigits (n : Numeral) : List Char :=
  n.fraction.getD []

/-- The exponent as text. -/
def exponentText (n : Numeral) : List Char :=
  n.exponent.elim [] Exponent.text

/-- What stands behind the digits in front of the point. -/
def afterWhole (n : Numeral) : List Char :=
  n.fraction.elim [] ('.' :: ·) ++ n.exponentText

/-- A numeral without its sign, as text. -/
def unsigned (n : Numeral) : List Char :=
  n.whole ++ n.afterWhole

/-- A numeral as text. -/
def text (n : Numeral) : List Char :=
  n.sign.text ++ n.unsigned

/-- The digits of a numeral, scaled by an exponent. -/
def scaled (n : Numeral) (e : Int) : Decimal :=
  ⟨Digits.ofDigits (n.whole ++ n.fractionDigits), e - n.fractionDigits.length⟩

/-- The decimal that a numeral denotes, apart from its sign. -/
def denoted (n : Numeral) : Decimal :=
  n.scaled (n.exponent.elim 0 Exponent.value)

/-- The decimal that a numeral is read as, apart from its sign. -/
def read (n : Numeral) : Decimal :=
  n.scaled (n.exponent.elim 0 Exponent.read)

section
variable (n : Numeral)

/-- The exponent of a numeral is read to its end, and as zero if there is none. -/
lemma exponent?_exponentText :
    Decimal.exponent? n.exponentText = some (n.exponent.elim 0 Exponent.read) := by
  rw [exponentText]
  cases n.exponent with
  | none => rfl
  | some x => exact x.exponent?_text

/-- An exponent begins with its mark. -/
lemma headNot_exponentText {p : Char → Bool} (he : p 'e' = false) (hE : p 'E' = false) :
    HeadNot p n.exponentText := by
  rw [exponentText]
  cases n.exponent with
  | none => exact nofun
  | some x =>
    refine headNot_cons ?_
    obtain h | h := x.mark_eq
    · rw [h, he]
    · rw [h, hE]

/-- Behind the digits in front of the point comes the point or the exponent. -/
lemma headNot_afterWhole {p : Char → Bool} (hpoint : p '.' = false) (he : p 'e' = false)
    (hE : p 'E' = false) : HeadNot p n.afterWhole := by
  rw [afterWhole]
  cases n.fraction with
  | none => exact n.headNot_exponentText he hE
  | some fraction => exact headNot_cons hpoint

/-- A numeral is read in full. -/
lemma ofText?_unsigned : Decimal.ofText? n.unsigned = some n.read := by
  have hrest : HeadNot Char.isDigit n.afterWhole :=
    n.headNot_afterWhole (by decide) (by decide) (by decide)
  have hwhole : leadingDigits n.unsigned = n.whole := hrest.takeWhile_append n.all_whole
  have hafter : afterDigits n.unsigned = n.afterWhole := hrest.dropWhile_append n.all_whole
  have hexponent : HeadNot Char.isDigit n.exponentText :=
    n.headNot_exponentText (by decide) (by decide)
  have hdigits := n.digits_ne_nil
  have hfraction := n.all_fraction
  rw [Decimal.ofText?, hwhole, hafter, read, scaled, fractionDigits, ← Digits.ofLongDigits_eq]
  rw [afterWhole]
  cases hcase : n.fraction with
  | none =>
    have hpoint : n.exponentText.head? ≠ some '.' := by
      intro h
      exact absurd (n.headNot_exponentText (p := (· == '.')) (by decide) (by decide) '.' h)
        (by decide)
    rw [hcase, Option.getD_none, List.append_nil] at hdigits
    simp [hpoint, hdigits, exponent?_exponentText, Decimal.ofParts]
  | some fraction =>
    rw [hcase, Option.getD_some] at hdigits hfraction
    have htake : leadingDigits (fraction ++ n.exponentText) = fraction :=
      hexponent.takeWhile_append hfraction
    have hdrop : afterDigits (fraction ++ n.exponentText) = n.exponentText :=
      hexponent.dropWhile_append hfraction
    have hne : ¬(n.whole = [] ∧ fraction = []) := fun h => hdigits (List.append_eq_nil_iff.mpr h)
    simp [htake, hdrop, hne, exponent?_exponentText, Decimal.ofParts]

end

/-- A text is its leading digits and what stands behind them. -/
lemma leadingDigits_append (s : List Char) : leadingDigits s ++ afterDigits s = s :=
  List.takeWhile_append_dropWhile

/-- The leading digits of a text are digits. -/
lemma all_leadingDigits (s : List Char) : (leadingDigits s).all Char.isDigit = true :=
  List.all_takeWhile

/-- What is read as a decimal without a sign is a numeral behind any sign. -/
lemma exists_of_ofText? {s : List Char} {d : Decimal} (h : Decimal.ofText? s = some d)
    (sign : Sign) : ∃ n : Numeral, n.sign = sign ∧ n.unsigned = s := by
  have hsplit := leadingDigits_append s
  rw [Decimal.ofText?] at h
  by_cases hpoint : (afterDigits s).head? = some '.'
  · obtain ⟨r, hr⟩ := List.head?_eq_some_iff.mp hpoint
    have hsplit' := leadingDigits_append r
    simp only [hr, List.head?_cons, beq_self_eq_true, if_true, List.drop_one, List.tail_cons,
      Option.ite_none_left_eq_some, Option.map_eq_some_iff] at h
    obtain ⟨hne, e, he, -⟩ := h
    obtain ⟨x, hx⟩ := Exponent.exists_of_exponent? he
    refine ⟨⟨sign, leadingDigits s, some (leadingDigits r), x, all_leadingDigits s,
      all_leadingDigits r, fun hnil => hne (List.append_eq_nil_iff.mp hnil)⟩, rfl, ?_⟩
    change leadingDigits s ++ ('.' :: leadingDigits r ++ x.elim [] Exponent.text) = s
    rw [hx, List.cons_append, hsplit', ← hr, hsplit]
  · have hpoint' : ((afterDigits s).head? == some '.') = false := beq_eq_false_iff_ne.mpr hpoint
    simp only [hpoint', Bool.false_eq_true, if_false, and_true, Option.ite_none_left_eq_some,
      Option.map_eq_some_iff] at h
    obtain ⟨hne, e, he, -⟩ := h
    obtain ⟨x, hx⟩ := Exponent.exists_of_exponent? he
    refine ⟨⟨sign, leadingDigits s, none, x, all_leadingDigits s, rfl, ?_⟩, rfl, ?_⟩
    · rw [Option.getD_none, List.append_nil]
      exact hne
    · change leadingDigits s ++ ([] ++ x.elim [] Exponent.text) = s
      rw [hx, List.nil_append, hsplit]

end Numeral

end Stencil

import Stencil.Proofs.Number.Coercion
import Stencil.Proofs.Number.Whole
import Stencil.Proofs.Number.ZeroSign

/-!
# Reading back what is written

The text of a number is read as this number, up to the sign of zero, which is not written. In each
of its three layouts the text of a finite number is a numeral (`Numeral.Writes`): digits in front of
the point, digits behind it, or an exponent. It denotes the decimal that was found for the number,
without the zeros at its end, and this decimal reads back. An exponent is never so large that some
of its digits would not count, because the decimal lies within the magnitudes.

Main statement: the text of a number is read back (`Value.toNumber_text`).
-/

namespace Stencil

namespace Exponent

/-- An exponent as it is written, always with a sign. -/
def ofInt (e : Int) : Exponent :=
  .small (if e < 0 then .minus else .plus) (Digits.digits e.natAbs) (Digits.digits_ne_nil _)
    (Digits.all_digits _)

/-- The text of the exponent of an integer. -/
lemma text_ofInt (e : Int) :
    (ofInt e).text = 'e' :: (if e < 0 then '-' else '+') :: Digits.digits e.natAbs := by
  rw [text, ofInt]
  split <;> rfl

/-- The digits of the exponent of an integer denote its magnitude. -/
lemma ofDigits_ofInt (e : Int) : Digits.ofDigits (ofInt e).digits = e.natAbs :=
  Digits.ofDigits_digits _

/-- The exponent of an integer denotes this integer. -/
lemma value_ofInt (e : Int) : (ofInt e).value = e := by
  rw [value, ofDigits_ofInt, ofInt, small, Sign.apply]
  split
  · case isTrue h =>
    rw [Sign.isMinus, if_pos rfl]
    omega
  · case isFalse h =>
    rw [Sign.isMinus, if_neg Bool.false_ne_true]
    omega

end Exponent

namespace Numeral

/-- The text is a numeral behind any sign. Its exponent is read right, and it denotes `q` apart from
the sign. -/
def Writes (text : List Char) (q : ℚ) : Prop :=
  ∀ sign : Sign, ∃ n : Numeral,
    n.sign = sign ∧ n.unsigned = text ∧ n.CountsExponent ∧ n.denoted.value = q

/-- Whole digits alone. -/
lemma writes_whole {ds : List Char} (hall : ds.all Char.isDigit = true) (hne : ds ≠ []) :
    Writes ds (Digits.ofDigits ds) := by
  intro sign
  refine ⟨⟨sign, ds, none, none, hall, rfl, ?_⟩, rfl, ?_, nofun, ?_⟩
  · rw [Option.getD_none, List.append_nil]
    exact hne
  · exact List.append_nil ds
  · change (Digits.ofDigits (ds ++ []) : ℚ) * 10 ^ (0 : ℤ) = Digits.ofDigits ds
    rw [List.append_nil, zpow_zero, mul_one]

/-- Digits on both sides of a point. -/
lemma writes_point {ds fs : List Char} (hds : ds.all Char.isDigit = true)
    (hfs : fs.all Char.isDigit = true) (hne : ds ≠ []) :
    Writes (ds ++ '.' :: fs) (Digits.ofDigits (ds ++ fs) * 10 ^ (-fs.length : ℤ)) := by
  intro sign
  refine ⟨⟨sign, ds, some fs, none, hds, hfs, ?_⟩, rfl, ?_, nofun, ?_⟩
  · exact List.append_ne_nil_of_left_ne_nil hne _
  · change ds ++ ('.' :: fs ++ []) = ds ++ '.' :: fs
    rw [List.append_nil]
  · change (Digits.ofDigits (ds ++ fs) : ℚ) * 10 ^ (0 - fs.length : ℤ) = _
    rw [zero_sub]

variable {ds : List Char}

/-- Digits written in full denote what they denote as `0.d₁d₂…`, scaled. -/
lemma writes_positional (hall : ds.all Char.isDigit = true) (hne : ds ≠ []) (point : Int) :
    Writes (positional ds point) (Digits.ofDigits ds * 10 ^ (point - ds.length)) := by
  rw [positional]
  split
  · case isTrue hpoint =>
    -- the point stands in front of all digits, with zeros around it
    obtain ⟨k, rfl⟩ : ∃ k : Nat, point = -k := ⟨(-point).toNat, by omega⟩
    have hfs : (List.replicate k '0' ++ ds).all Char.isDigit = true := by
      rw [List.all_append, Digits.all_replicate_zero, hall]
      rfl
    have hvalue : Digits.ofDigits (['0'] ++ (List.replicate k '0' ++ ds)) = Digits.ofDigits ds :=
      (Digits.ofDigits_replicate_zero_append 1 _).trans (Digits.ofDigits_replicate_zero_append k ds)
    have h := writes_point rfl hfs (List.cons_ne_nil '0' [])
    rw [hvalue, List.length_append, List.length_replicate, Nat.cast_add, neg_add'] at h
    rw [neg_neg, Int.toNat_natCast]
    exact h
  · split
    · case isTrue hlength =>
      -- behind them, so it is not written
      obtain ⟨k, rfl⟩ : ∃ k : Nat, point = k + ds.length := ⟨(point - ds.length).toNat, by omega⟩
      have hwhole : (ds ++ List.replicate k '0').all Char.isDigit = true := by
        rw [List.all_append, hall, Digits.all_replicate_zero]
        rfl
      have h := writes_whole hwhole (List.append_ne_nil_of_left_ne_nil hne _)
      rw [Digits.ofDigits_append, Digits.ofDigits_replicate_zero, List.length_replicate] at h
      have hcount : (↑k + ↑ds.length : ℤ).toNat - ds.length = k := by omega
      rw [hcount, add_sub_cancel_right, zpow_natCast]
      exact_mod_cast h
    · case isFalse hpos hlength =>
      -- among them
      obtain ⟨k, rfl⟩ : ∃ k : Nat, point = k := ⟨point.toNat, by omega⟩
      have hsplit : (ds.take k).all Char.isDigit = true ∧ (ds.drop k).all Char.isDigit = true := by
        rw [← Bool.and_eq_true, ← List.all_append, List.take_append_drop]
        exact hall
      have hfront : ds.take k ≠ [] := by
        rw [Ne, List.take_eq_nil_iff, not_or]
        exact ⟨by omega, hne⟩
      have h := writes_point hsplit.1 hsplit.2 hfront
      rw [List.take_append_drop, List.length_drop] at h
      rw [Int.toNat_natCast]
      convert h using 3
      omega

/-- Digits written with an exponent denote what they denote as `d₁.d₂…`, scaled. -/
lemma writes_exponential (hall : ds.all Char.isDigit = true) (hne : ds ≠ []) {e : Int}
    (hsmall : e.natAbs < 10 * Decimal.exponentBound) :
    Writes (exponential ds e) (Digits.ofDigits ds * 10 ^ (e + 1 - ds.length)) := by
  intro sign
  have hsplit : (ds.take 1).all Char.isDigit = true ∧ (ds.drop 1).all Char.isDigit = true := by
    rw [← Bool.and_eq_true, ← List.all_append, List.take_append_drop]
    exact hall
  obtain ⟨fraction, hfraction, htext⟩ : ∃ fraction : Option (List Char),
      fraction.getD [] = ds.drop 1 ∧
        fraction.elim [] ('.' :: ·) = if ds.length ≤ 1 then [] else '.' :: ds.drop 1 := by
    by_cases h : ds.length ≤ 1
    · rw [if_pos h]
      exact ⟨none, (List.drop_eq_nil_of_le h).symm, rfl⟩
    · rw [if_neg h]
      exact ⟨some (ds.drop 1), rfl, rfl⟩
  refine ⟨⟨sign, ds.take 1, fraction, some (.ofInt e), hsplit.1, ?_, ?_⟩, rfl, ?_, ?_, ?_⟩
  · rw [hfraction]
    exact hsplit.2
  · rw [hfraction, List.take_append_drop]
    exact hne
  · rw [exponential]
    change ds.take 1 ++ (fraction.elim [] ('.' :: ·) ++ (Exponent.ofInt e).text) = _
    rw [htext, Exponent.text_ofInt, ← List.append_assoc]
  · intro x hx
    obtain rfl := Option.some_inj.mp hx
    refine .inl (Decimal.exponentOf_eq ?_)
    rw [Exponent.ofDigits_ofInt]
    exact hsmall
  · rw [denoted, scaled, fractionDigits, Decimal.value]
    dsimp only
    rw [hfraction, List.take_append_drop, Option.elim_some, Exponent.value_ofInt, List.length_drop]
    have hpos := List.length_pos_iff.mpr hne
    congr 2
    omega

end Numeral

namespace Digits

/-- Some digits without the zeros at their end. -/
def stripped (ds : List Char) : List Char :=
  (ds.reverse.dropWhile (· == '0')).reverse

variable (ds : List Char)

/-- Only zeros are left out. -/
lemma exists_stripped_append : ∃ k, stripped ds ++ List.replicate k '0' = ds := by
  have hzeros : ds.reverse.takeWhile (· == '0') =
      List.replicate (ds.reverse.takeWhile (· == '0')).length '0' :=
    List.eq_replicate_of_mem fun c hc =>
      beq_iff_eq.mp (List.all_eq_true.mp List.all_takeWhile c hc)
  refine ⟨(ds.reverse.takeWhile (· == '0')).length, ?_⟩
  rw [stripped, ← List.reverse_inj, List.reverse_append, List.reverse_reverse,
    List.reverse_replicate, ← hzeros]
  exact List.takeWhile_append_dropWhile

/-- What is left denotes the same, scaled. -/
lemma value_stripped (e : ℤ) :
    (ofDigits (stripped ds) : ℚ) * 10 ^ (e + ds.length - (stripped ds).length) =
      ofDigits ds * 10 ^ e := by
  obtain ⟨k, hk⟩ := exists_stripped_append ds
  have hdigits : ofDigits ds = ofDigits (stripped ds) * 10 ^ k := by
    conv_lhs => rw [← hk]
    rw [ofDigits_append, ofDigits_replicate_zero, List.length_replicate, Nat.add_zero]
  have hlength : ds.length = (stripped ds).length + k := by
    conv_lhs => rw [← hk]
    rw [List.length_append, List.length_replicate]
  have hexponent : e + ds.length - (stripped ds).length = k + e := by omega
  rw [hdigits, hexponent, zpow_add₀ (by norm_num), zpow_natCast]
  push_cast
  ring

variable {ds}

/-- What is left without the zeros at the end are digits. -/
lemma all_stripped (h : ds.all Char.isDigit = true) : (stripped ds).all Char.isDigit = true := by
  obtain ⟨k, hk⟩ := exists_stripped_append ds
  rw [← hk, List.all_append, Bool.and_eq_true] at h
  exact h.1

/-- Digits that do not denote zero are not all stripped. -/
lemma stripped_ne_nil (h : ofDigits ds ≠ 0) : stripped ds ≠ [] := by
  obtain ⟨k, hk⟩ := exists_stripped_append ds
  intro hnil
  rw [hnil, List.nil_append] at hk
  rw [← hk] at h
  exact h (ofDigits_replicate_zero k)

end Digits

namespace Magnitude

variable {m : Magnitude}

/-- The decimal that is found for a magnitude is read as this magnitude behind any sign. -/
lemma ofDecimal_shortest (negative : Bool) (m : Magnitude) :
    Number.ofDecimal negative m.shortest = .finite ⟨negative, m⟩ :=
  Number.ofDecimal_eq_finite_iff.mpr m.nearest?_shortest

/-- Only zero is written with the coefficient zero. -/
lemma coefficient_shortest_ne_zero (h : m.rank ≠ 0) : m.shortest.coefficient ≠ 0 := by
  intro hzero
  have hnearest := m.nearest?_shortest
  rw [Decimal.nearest?, if_pos hzero] at hnearest
  obtain rfl := Option.some_inj.mp hnearest
  exact h rfl

/-- The decimal of a magnitude begins at most 400 places from the point. -/
lemma shortest_point (h : m.rank ≠ 0) :
    -400 < m.shortest.exponent + (Digits.digits m.shortest.coefficient).length ∧
      m.shortest.exponent + (Digits.digits m.shortest.coefficient).length ≤ 400 := by
  have hread := ofDecimal_shortest false m
  -- further out it would be read as zero or as infinite
  refine ⟨?_, ?_⟩
  · by_contra hsmall
    rw [Number.ofDecimal_eq_zero (Digits.lt_pow_length_digits _) (not_lt.mp hsmall)] at hread
    cases hread
    exact h rfl
  · by_contra hlarge
    have hpos := List.length_pos_iff.mpr (Digits.digits_ne_nil m.shortest.coefficient)
    have hcount :=
      Decimal.value_count_le (Digits.pow_le_of_ne_zero (coefficient_shortest_ne_zero h))
      (by omega)
    have hinfinity : Number.IsNearest false m.shortest.value (.infinity false) :=
      Number.isNearest_infinity m.shortest.den_pos m.shortest.num_div_den hcount
    rw [(Number.isNearest_ofDecimal false m.shortest).unique hinfinity] at hread
    cases hread

/-- A magnitude is written as the decimal that is found for it. -/
lemma writes_text (h : m.rank ≠ 0) : Numeral.Writes m.text m.shortest.value := by
  obtain ⟨all, hall⟩ : ∃ all, Digits.digits m.shortest.coefficient = all := ⟨_, rfl⟩
  obtain ⟨point, hpoint⟩ : ∃ point : Int, m.shortest.exponent + all.length = point := ⟨_, rfl⟩
  have hcoefficient : Digits.ofDigits all = m.shortest.coefficient := by
    rw [← hall, Digits.ofDigits_digits]
  have hvalue : m.shortest.value =
      Digits.ofDigits (Digits.stripped all) * 10 ^ (point - (Digits.stripped all).length) := by
    rw [← hpoint, Digits.value_stripped, hcoefficient, Decimal.value]
  have hdigits : (Digits.stripped all).all Char.isDigit = true :=
    Digits.all_stripped (hall ▸ Digits.all_digits _)
  have hne : Digits.stripped all ≠ [] :=
    Digits.stripped_ne_nil (hcoefficient ▸ coefficient_shortest_ne_zero h)
  have hbounds := shortest_point h
  rw [hall, hpoint] at hbounds
  rw [text, if_neg h]
  dsimp only
  rw [hall, hpoint, hvalue]
  split
  · exact Numeral.writes_positional hdigits hne point
  · have hsmall : (point - 1).natAbs < 10 * Decimal.exponentBound := by
      rw [Decimal.exponentBound]
      omega
    have hwrites := Numeral.writes_exponential hdigits hne hsmall
    rw [sub_add_cancel] at hwrites
    exact hwrites

end Magnitude

namespace Number

/-- What writes the decimal of a magnitude is read, behind a sign, as the magnitude with it. -/
lemma ofText_ofList {text : List Char} {m : Magnitude}
    (h : Numeral.Writes text m.shortest.value) (sign : Sign) :
    ofText (String.ofList (sign.text ++ text)) = .finite ⟨sign.isMinus, m⟩ := by
  obtain ⟨n, rfl, rfl, hcounts, hvalue⟩ := h sign
  have htrim : Text.trim (String.ofList (n.sign.text ++ n.unsigned)).toList = n.text := by
    rw [String.toList_ofList]
    exact Text.trim_eq_self fun c hc =>
      isBlank_of_isNumeralChar (List.all_eq_true.mp n.all_text c hc)
  rw [ofText_of_numeral htrim, hcounts.ofDecimal_read, ofDecimal_congr hvalue]
  exact m.ofDecimal_shortest n.sign.isMinus

/-- The text of a number is read as this number, up to the sign of zero. -/
lemma ofText_text (x : Number) : ofText x.text = x.unsignZero := by
  cases x with
  | nan => decide +kernel
  | infinity negative => cases negative <;> decide +kernel
  | finite x =>
    obtain ⟨negative, m⟩ := x
    by_cases hzero : m.rank = 0
    · obtain rfl : m = .zero := Magnitude.ext hzero
      cases negative <;> decide +kernel
    · have hsigned : (Number.finite ⟨negative, m⟩).unsignZero = .finite ⟨negative, m⟩ := by
        refine if_neg fun h => hzero ?_
        cases h
        rfl
      have hwrites := Magnitude.writes_text hzero
      rw [text, hsigned, bne_iff_ne.mpr hzero, Bool.and_true]
      cases negative with
      | true => exact ofText_ofList hwrites .minus
      | false => exact ofText_ofList hwrites .absent

end Number

/-- The text of a number is read back as this very number unless it is zero. The two zeros have one
text, and it is read as the positive one. The text of `nan` is read as `nan`. So the text tells
numbers other than zero apart. -/
theorem Value.toNumber_text (x y : Number) :
    (x.isNonzero = true → (string (number x).text).toNumber = x) ∧
    (x = .zero ∨ x = .negativeZero → (string (number x).text).toNumber = .zero) ∧
    (x = .nan → (string (number x).text).toNumber = .nan) ∧
    (x.isNonzero = true → y.isNonzero = true →
      (number x).text = (number y).text → x = y) := by
  have hback (x : Number) (h : x.isNonzero = true) : Number.ofText x.text = x := by
    rw [Number.ofText_text, Number.unsignZero, if_neg]
    rintro rfl
    cases h
  refine ⟨hback x, ?_, ?_, fun hx hy htext => ?_⟩
  · rintro (rfl | rfl)
    · exact Number.ofText_text .zero
    · exact Number.ofText_text .negativeZero
  · rintro rfl
    exact Number.ofText_text .nan
  · calc x = Number.ofText x.text := (hback x hx).symm
      _ = Number.ofText y.text := congrArg Number.ofText htext
      _ = y := hback y hy

/-- The least positive number, whose digits stand before an exponent. -/
def leastPositive : Number := .ofBits 1

/-- The least positive number is read back from its text, as are zero, up to its sign, and `nan`. -/
theorem Value.toNumber_text_of_leastPositive :
    (Value.string (Value.number leastPositive).text).toNumber = leastPositive ∧
    (Value.string (Value.number .negativeZero).text).toNumber = .zero ∧
    (Value.string (Value.number .nan).text).toNumber = .nan ∧
    (Value.number leastPositive).text ≠ (Value.number (.ofBits 2)).text := by
  refine ⟨?_, ?_, ?_, fun h => ?_⟩
  · exact (toNumber_text leastPositive .zero).1 (by decide +kernel)
  · exact (toNumber_text .negativeZero .zero).2.1 (.inr rfl)
  · exact (toNumber_text .nan .zero).2.2.1 rfl
  · exact absurd ((toNumber_text leastPositive (.ofBits 2)).2.2.2 (by decide +kernel)
      (by decide +kernel) h) (by decide +kernel)

end Stencil

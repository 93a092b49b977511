import Stencil.Proofs.Number.ZeroSign
import Stencil.Value.Coercion

/-!
# Values up to the sign of their zeros

`unsignZeros` drops the sign of every zero in a value, at any depth. Values that differ only in
these signs are those with the same image. They are told apart by nothing that a template does with
a value: not by its truth, text, number or parts, and not by the equality of templates. That
equality is the same image, for values without `nan` (`same_iff`).
-/

namespace Stencil.Value

mutual

/-- The value with the positive sign for every zero in it. -/
def unsignZeros : Value → Value
  | number x => number x.unsignZero
  | array items => array (unsignItems items)
  | object fields => object (unsignFields fields)
  | v => v

/-- Some values, with the positive sign for every zero in them. -/
def unsignItems : List Value → List Value
  | [] => []
  | v :: vs => v.unsignZeros :: unsignItems vs

/-- Some fields, with the positive sign for every zero in them. -/
def unsignFields : List (String × Value) → List (String × Value)
  | [] => []
  | (k, v) :: fields => (k, v.unsignZeros) :: unsignFields fields

end

mutual

/-- Whether there is a `nan` anywhere in a value. -/
def holdsNan : Value → Bool
  | number x => x == .nan
  | array items => itemsHoldNan items
  | object fields => fieldsHoldNan fields
  | _ => false

/-- Whether there is a `nan` anywhere in some values. -/
def itemsHoldNan : List Value → Bool
  | [] => false
  | v :: vs => v.holdsNan || itemsHoldNan vs

/-- Whether there is a `nan` anywhere in some fields. -/
def fieldsHoldNan : List (String × Value) → Bool
  | [] => false
  | (_, v) :: fields => v.holdsNan || fieldsHoldNan fields

end

/-- The signs of zeros are dropped item by item. -/
lemma unsignItems_eq_map (items : List Value) : unsignItems items = items.map unsignZeros := by
  induction items with
  | nil => rfl
  | cons v vs ih => rw [unsignItems, List.map_cons, ih]

/-- The signs of zeros are dropped field by field. -/
lemma unsignFields_eq_mapValues (fields : Fields Value) :
    unsignFields fields = fields.mapValues unsignZeros := by
  induction fields with
  | nil => rfl
  | cons p rest ih =>
    rw [unsignFields, ih]
    rfl

mutual

/-- The text of a value does not show the signs of zeros. -/
lemma text_unsignZeros (v : Value) : v.unsignZeros.text = v.text := by
  cases v with
  | number x =>
    rw [unsignZeros, text, text]
    exact x.text_unsignZero
  | array items => rw [unsignZeros, text, text, texts_unsignItems items]
  | _ => rfl

/-- The texts of items do not show the signs of zeros. -/
lemma texts_unsignItems (items : List Value) : texts (unsignItems items) = texts items := by
  cases items with
  | nil => rfl
  | cons v vs => rw [unsignItems, texts, texts, text_unsignZeros v, texts_unsignItems vs]

end

/-- The truth of a value does not depend on the signs of zeros. -/
lemma isTruthy_unsignZeros (v : Value) : v.unsignZeros.isTruthy = v.isTruthy := by
  cases v with
  | number x => exact x.isNonzero_unsignZero
  | array items => cases items <;> rfl
  | object fields => cases fields <;> rfl
  | _ => rfl

/-- The number of a value is the same up to the sign of zero. -/
lemma toNumber_unsignZeros (v : Value) :
    v.unsignZeros.toNumber.unsignZero = v.toNumber.unsignZero := by
  cases v with
  | number x => exact x.unsignZero_unsignZero
  | array items =>
    match items with
    | [] => rfl
    | [v] =>
      change (Number.ofText v.unsignZeros.text).unsignZero = (Number.ofText v.text).unsignZero
      rw [text_unsignZeros]
    | _ :: _ :: _ => rfl
  | _ => rfl

/-- The parts of a value are the same up to the signs of their zeros. -/
lemma get?_unsignZeros (v : Value) (name : String) :
    v.unsignZeros.get? name = (v.get? name).map unsignZeros := by
  cases v with
  | array items =>
    simp only [unsignZeros, get?, unsignItems_eq_map]
    cases Digits.ofNumeral? name.toList with
    | none => rfl
    | some i => exact List.getElem?_map
  | object fields =>
    simp only [unsignZeros, get?, unsignFields_eq_mapValues]
    exact Fields.get?_mapValues unsignZeros fields name
  | _ => rfl

/-- Paths lead to the same values without the signs of zeros. -/
lemma follow?_unsignZeros (v : Value) (path : List String) :
    v.unsignZeros.follow? path = (v.follow? path).map unsignZeros := by
  induction path generalizing v with
  | nil => rfl
  | cons name path ih =>
    rw [follow?_cons, follow?_cons, get?_unsignZeros, Option.map_bind]
    cases v.get? name with
    | none => rfl
    | some w => exact ih w

mutual

/-- A value without the signs of zeros holds `nan` if it does with them. -/
lemma holdsNan_unsignZeros (v : Value) : v.unsignZeros.holdsNan = v.holdsNan := by
  cases v with
  | number x =>
    rw [unsignZeros, holdsNan, holdsNan, Bool.eq_iff_iff, beq_iff_eq, beq_iff_eq]
    exact Number.unsignZero_eq_nan_iff
  | array items => exact itemsHoldNan_unsignItems items
  | object fields => exact fieldsHoldNan_unsignFields fields
  | _ => rfl

/-- Items without the signs of zeros hold `nan` if they do with them. -/
lemma itemsHoldNan_unsignItems (items : List Value) :
    itemsHoldNan (unsignItems items) = itemsHoldNan items := by
  cases items with
  | nil => rfl
  | cons v vs =>
    rw [unsignItems, itemsHoldNan, itemsHoldNan, holdsNan_unsignZeros v,
      itemsHoldNan_unsignItems vs]

/-- Fields without the signs of zeros hold `nan` if they do with them. -/
lemma fieldsHoldNan_unsignFields (fields : List (String × Value)) :
    fieldsHoldNan (unsignFields fields) = fieldsHoldNan fields := by
  match fields with
  | [] => rfl
  | (_, v) :: fields =>
    rw [unsignFields, fieldsHoldNan, fieldsHoldNan, holdsNan_unsignZeros v,
      fieldsHoldNan_unsignFields fields]

end

mutual

/-- Values are equal as templates see it if they differ only in the signs of zeros and hold no
`nan`. -/
theorem same_iff (v w : Value) :
    v.same w = true ↔ v.unsignZeros = w.unsignZeros ∧ v.holdsNan = false := by
  cases v with
  | number x =>
    cases w with
    | number y =>
      simp only [same, unsignZeros, holdsNan, number.injEq, beq_eq_false_iff_ne]
      exact Number.same_iff
    | _ => simp [same, unsignZeros]
  | array items =>
    cases w with
    | array others =>
      simp only [same, unsignZeros, holdsNan, array.injEq]
      exact sameItems_iff items others
    | _ => simp [same, unsignZeros]
  | object fields =>
    cases w with
    | object others =>
      simp only [same, unsignZeros, holdsNan, object.injEq]
      exact sameFields_iff fields others
    | _ => simp [same, unsignZeros]
  | _ => cases w <;> simp [same, unsignZeros, holdsNan]

/-- Lists of values are equal as templates see it if they are equal up to the signs of zeros and no
`nan` is in them. -/
theorem sameItems_iff (vs ws : List Value) :
    sameItems vs ws = true ↔ unsignItems vs = unsignItems ws ∧ itemsHoldNan vs = false := by
  cases vs with
  | nil => cases ws <;> simp [sameItems, unsignItems, itemsHoldNan]
  | cons v vs =>
    cases ws with
    | nil => simp [sameItems, unsignItems]
    | cons w ws =>
      simp only [sameItems, unsignItems, itemsHoldNan, List.cons.injEq, Bool.and_eq_true,
        Bool.or_eq_false_iff, same_iff v w, sameItems_iff vs ws]
      exact and_and_and_comm

/-- Fields are equal as templates see it if they are equal up to the signs of zeros and no `nan` is
in them. -/
theorem sameFields_iff (vs ws : List (String × Value)) :
    sameFields vs ws = true ↔ unsignFields vs = unsignFields ws ∧ fieldsHoldNan vs = false := by
  match vs, ws with
  | [], [] => simp [sameFields, unsignFields, fieldsHoldNan]
  | [], _ :: _ => simp [sameFields, unsignFields]
  | _ :: _, [] => simp [sameFields, unsignFields]
  | (k, v) :: vs, (l, w) :: ws =>
    simp only [sameFields, unsignFields, fieldsHoldNan, List.cons.injEq, Prod.mk.injEq,
      Bool.and_eq_true, Bool.or_eq_false_iff, beq_iff_eq, same_iff v w, sameFields_iff vs ws]
    rw [← and_assoc (a := k = l), and_and_and_comm]

end

end Stencil.Value

import Mathlib.Tactic.Lemma
import Stencil.Json.Data

/-!
# Values as documents and back

JSON cannot write `nan` and the infinities. A value that is turned into a document and back has
`null` in the place of each of them, at any depth, and is otherwise what it was
(`Value.toValue_toJson`).

The numbers of a value are taken as its leaves: `Value.numbers` lists them and `Value.mapNumbers`
puts something in their places, so a value stays as it is just if each of its numbers does
(`Value.mapNumbers_eq_self_iff`). Documents lose nothing on the way through values
(`Json.toJson_toValue`); this is why a second turn changes no more than the first.
-/

namespace Stencil

namespace Value

mutual

/-- The numbers in a value, at any depth, from left to right. -/
def numbers : Value → List Number
  | number x => [x]
  | array items => itemNumbers items
  | object fields => fieldNumbers fields
  | _ => []

/-- The numbers in some values. -/
def itemNumbers : List Value → List Number
  | [] => []
  | v :: vs => v.numbers ++ itemNumbers vs

/-- The numbers in some fields. -/
def fieldNumbers : List (String × Value) → List Number
  | [] => []
  | (_, v) :: fields => v.numbers ++ fieldNumbers fields

end

mutual

/-- The value with what a function makes of each of its numbers in the place of the number. -/
def mapNumbers (f : Number → Value) : Value → Value
  | number x => f x
  | array items => array (mapItems f items)
  | object fields => object (mapFields f fields)
  | v => v

/-- Some values, with what a function makes of each of their numbers. -/
def mapItems (f : Number → Value) : List Value → List Value
  | [] => []
  | v :: vs => v.mapNumbers f :: mapItems f vs

/-- Some fields, with what a function makes of each of their numbers. -/
def mapFields (f : Number → Value) : List (String × Value) → List (String × Value)
  | [] => []
  | (k, v) :: fields => (k, v.mapNumbers f) :: mapFields f fields

end

variable (f : Number → Value)

/-- The numbers of fields are changed field by field. -/
lemma mapFields_eq_mapValues (fields : Fields Value) :
    mapFields f fields = fields.mapValues (mapNumbers f) := by
  induction fields with
  | nil => rfl
  | cons p rest ih =>
    rw [mapFields, ih]
    rfl

mutual

/-- A value stays as it is just if all its numbers do. -/
lemma mapNumbers_eq_self_iff (v : Value) :
    v.mapNumbers f = v ↔ ∀ x ∈ v.numbers, f x = number x := by
  cases v with
  | number x => rw [mapNumbers, numbers, List.forall_mem_singleton]
  | array items =>
    rw [mapNumbers, numbers, array.injEq]
    exact mapItems_eq_self_iff items
  | object fields =>
    rw [mapNumbers, numbers, object.injEq]
    exact mapFields_eq_self_iff fields
  | _ => exact iff_of_true rfl nofun

/-- Items are not changed just if none of their numbers is. -/
lemma mapItems_eq_self_iff (items : List Value) :
    mapItems f items = items ↔ ∀ x ∈ itemNumbers items, f x = number x := by
  cases items with
  | nil => exact iff_of_true rfl nofun
  | cons v vs =>
    rw [mapItems, itemNumbers, List.cons.injEq, List.forall_mem_append,
      mapNumbers_eq_self_iff v, mapItems_eq_self_iff vs]

/-- Fields are not changed just if none of their numbers is. -/
lemma mapFields_eq_self_iff (fields : List (String × Value)) :
    mapFields f fields = fields ↔ ∀ x ∈ fieldNumbers fields, f x = number x := by
  match fields with
  | [] => exact iff_of_true rfl nofun
  | (k, v) :: fields =>
    rw [mapFields, fieldNumbers, List.cons.injEq, Prod.mk.injEq, eq_self, true_and,
      List.forall_mem_append, mapNumbers_eq_self_iff v, mapFields_eq_self_iff fields]

end

end Value

/-- A number that JSON can write, and `null` for any other. -/
def Number.orNull : Number → Value
  | finite x => .number (.finite x)
  | _ => .null

/-- The numbers that JSON has are the finite ones. -/
lemma Number.orNull_eq_number_iff {x : Number} : x.orNull = .number x ↔ ∃ y, x = .finite y := by
  cases x with
  | nan => simp [orNull]
  | infinity negative => simp [orNull]
  | finite y => simp [orNull]

namespace Json

mutual

/-- A document is the document of its value. -/
theorem toJson_toValue (j : Json) : j.toValue.toJson = j := by
  cases j with
  | array items => rw [toValue, Value.toJson, toJsons_toValues items]
  | object members => rw [toValue, Value.toJson, toMembers_toFields members]
  | _ => rfl

/-- Documents come back from their values, one by one. -/
theorem toJsons_toValues (js : List Json) : Value.toJsons (toValues js) = js := by
  cases js with
  | nil => rfl
  | cons j js => rw [toValues, Value.toJsons, toJson_toValue j, toJsons_toValues js]

/-- The members of an object come back from its fields. -/
theorem toMembers_toFields (members : List (String × Json)) :
    Value.toMembers (toFields members) = members := by
  match members with
  | [] => rfl
  | (k, j) :: members =>
    rw [toFields, Value.toMembers, toJson_toValue j, toMembers_toFields members]

end

end Json

namespace Value

mutual

/-- What a document of a value keeps: all but the numbers that JSON cannot write. -/
lemma toValue_toJson_eq (v : Value) : v.toJson.toValue = v.mapNumbers Number.orNull := by
  cases v with
  | number x => cases x <;> rfl
  | array items => rw [toJson, Json.toValue, mapNumbers, toValues_toJsons items]
  | object fields => rw [toJson, Json.toValue, mapNumbers, toFields_toMembers fields]
  | _ => rfl

/-- Items come back from their documents, but for the numbers that JSON does not have. -/
lemma toValues_toJsons (items : List Value) :
    Json.toValues (toJsons items) = mapItems Number.orNull items := by
  cases items with
  | nil => rfl
  | cons v vs => rw [toJsons, Json.toValues, mapItems, toValue_toJson_eq v, toValues_toJsons vs]

/-- Fields come back from their members, but for the numbers that JSON does not have. -/
lemma toFields_toMembers (fields : List (String × Value)) :
    Json.toFields (toMembers fields) = mapFields Number.orNull fields := by
  match fields with
  | [] => rfl
  | (k, v) :: fields =>
    rw [toMembers, Json.toFields, mapFields, toValue_toJson_eq v, toFields_toMembers fields]

end

/-- The document of an object is data for a render. -/
lemma toData_toJson_object (fields : Fields Value) :
    (object fields).toJson.toData = .ok (fields.mapValues (mapNumbers Number.orNull)) := by
  rw [toJson, Json.toData, toFields_toMembers, mapFields_eq_mapValues]

/-- The document of any other value is not. -/
lemma exists_object_of_toData_toJson {v : Value} {data : Fields Value}
    (h : v.toJson.toData = .ok data) : ∃ fields, v = object fields := by
  cases v with
  | object fields => exact ⟨fields, rfl⟩
  | number x => cases x <;> cases h
  | _ => cases h

/-- A value that is turned into a document and back has `null` in the place of every `nan` and every
infinity in it, at any depth, and all else as it was. So it is the same value just if all its
numbers are finite, and a second turn changes nothing. Its document is data for a render just if it
is an object, and the data are then its fields after the turn. -/
theorem toValue_toJson (v : Value) :
    v.toJson.toValue = v.mapNumbers Number.orNull ∧
      (v.toJson.toValue = v ↔ ∀ x ∈ v.numbers, ∃ y, x = .finite y) ∧
      v.toJson.toValue.toJson.toValue = v.toJson.toValue ∧
      ((∃ data, v.toJson.toData = .ok data) ↔ ∃ fields, v = object fields) ∧
      ∀ fields, v = object fields →
        v.toJson.toData = .ok (Fields.mapValues (fun w => w.toJson.toValue) fields) := by
  refine ⟨toValue_toJson_eq v, ?_, ?_, ⟨?_, ?_⟩, ?_⟩
  · rw [toValue_toJson_eq, mapNumbers_eq_self_iff]
    exact forall₂_congr fun _ _ => Number.orNull_eq_number_iff
  · rw [Json.toJson_toValue]
  · rintro ⟨data, hdata⟩
    exact exists_object_of_toData_toJson hdata
  · rintro ⟨fields, rfl⟩
    exact ⟨_, toData_toJson_object fields⟩
  · rintro fields rfl
    simp only [toValue_toJson_eq]
    exact toData_toJson_object fields

/-- Deep inside an object: `nan` and an infinity are gone, and a zero keeps its negative sign. -/
example :
    (object [("a", array [number .nan, number (.finite ⟨true, .zero⟩)]),
        ("b", object [("c", number (.infinity true))])]).toJson.toValue =
      object [("a", array [null, number (.finite ⟨true, .zero⟩)]), ("b", object [("c", null)])] :=
  rfl

end Value

end Stencil

import Stencil.Fields
import Stencil.Number.Basic
import Stencil.Number.Digits
import Stencil.Number.Rounding

/-!
# Values

The data handed to a template and the result of every expression. This module holds the type, the
step from a value to a part of it, and the equality that templates see.
-/

namespace Stencil

/-- A value; an object lists its fields in ascending order of their names. -/
inductive Value
  | null
  | bool (b : Bool)
  | number (x : Number)
  | string (s : String)
  | array (items : List Value)
  | object (fields : List (String × Value))
deriving Inhabited

namespace Value

/-- A natural number as a value. -/
def ofNat (n : Nat) : Value :=
  .number (.ofNat n)

/-- An integer as a value. -/
def ofInt (i : Int) : Value :=
  .number (.ofInt i)

/-- The part of a value under a name: a field of an object, or an item of an array under the numeral
of its index. Nothing else has parts. -/
def get? : Value → String → Option Value
  | object fields, name => Fields.get? fields name
  | array items, name => (Digits.ofNumeral? name.toList).bind fun i => items[i]?
  | _, _ => none

/-- Follows names into a value, one part after another. -/
def follow? (v : Value) (path : List String) : Option Value :=
  path.foldlM get? v

/-- A path is followed one segment at a time. -/
theorem follow?_cons (v : Value) (name : String) (path : List String) :
    v.follow? (name :: path) = (v.get? name).bind fun w => w.follow? path := rfl

/-- Following a path is following its first part and from there the rest. -/
theorem follow?_append (v : Value) (p q : List String) :
    v.follow? (p ++ q) = (v.follow? p).bind fun w => w.follow? q := by
  induction p generalizing v with
  | nil => rfl
  | cons name p ih =>
    rw [List.cons_append, follow?_cons, follow?_cons, Option.bind_assoc]
    congr 1
    funext w
    exact ih w

mutual

/-- Equality of values as templates see it: numbers are compared as numbers, so a value that holds
`nan` differs from itself. -/
def same : Value → Value → Bool
  | null, null => true
  | bool a, bool b => a == b
  | number x, number y => x.same y
  | string s, string t => s == t
  | array xs, array ys => sameItems xs ys
  | object xs, object ys => sameFields xs ys
  | _, _ => false

/-- Equality of lists of values, item by item. -/
def sameItems : List Value → List Value → Bool
  | [], [] => true
  | x :: xs, y :: ys => x.same y && sameItems xs ys
  | _, _ => false

/-- Equality of lists of fields, field by field. -/
def sameFields : List (String × Value) → List (String × Value) → Bool
  | [], [] => true
  | (k, x) :: xs, (l, y) :: ys => k == l && x.same y && sameFields xs ys
  | _, _ => false

end

end Value

end Stencil

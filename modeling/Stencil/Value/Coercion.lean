import Stencil.Number.Notation
import Stencil.Number.Reading
import Stencil.Value.Basic

/-!
# Values as truth, text and numbers

Every value counts as true or false, has a text and has a number. Emptiness and zero count as
false; the text of an array joins the texts of its items with commas; the number of an array is that
of the text of its only item.
-/

namespace Stencil.Value

/-- Whether a value counts as true. -/
def isTruthy : Value → Bool
  | null => false
  | bool b => b
  | number x => x.isNonzero
  | string s => !s.isEmpty
  | array items => !items.isEmpty
  | object fields => !fields.isEmpty

mutual

/-- The text of a value. -/
def text : Value → String
  | null => ""
  | bool b => if b then "true" else "false"
  | number x => x.text
  | string s => s
  | array items => ",".intercalate (texts items)
  | object _ => "[object Object]"

/-- The texts of some values. -/
def texts : List Value → List String
  | [] => []
  | v :: vs => v.text :: texts vs

end

/-- The texts of some values are the text of each. -/
theorem texts_eq_map (vs : List Value) : texts vs = vs.map text := by
  induction vs with
  | nil => rw [texts, List.map_nil]
  | cons v vs ih => rw [texts, List.map_cons, ih]

/-- The number of a value. -/
def toNumber : Value → Number
  | null => .zero
  | bool b => if b then .ofNat 1 else .zero
  | number x => x
  | string s => .ofText s
  | array [] => .zero
  | array [v] => .ofText v.text
  | array _ => .nan
  | object _ => .nan

end Stencil.Value

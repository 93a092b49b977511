import Stencil.Value.Basic

/-!
# JSON documents

A document is a value without `nan` and infinities, which JSON cannot write. Documents become values
as they are; a value becomes a document with `null` in the place of what has no number.
-/

namespace Stencil

/-- A JSON document; an object lists its members in ascending order of their names. -/
inductive Json
  | null
  | bool (b : Bool)
  | number (x : Finite)
  | string (s : String)
  | array (items : List Json)
  | object (members : List (String × Json))
deriving Inhabited

namespace Json

mutual

/-- The value of a document. -/
def toValue : Json → Value
  | null => .null
  | bool b => .bool b
  | number x => .number (.finite x)
  | string s => .string s
  | array items => .array (toValues items)
  | object members => .object (toFields members)

/-- The values of some documents. -/
def toValues : List Json → List Value
  | [] => []
  | j :: js => j.toValue :: toValues js

/-- The fields of some members. -/
def toFields : List (String × Json) → List (String × Value)
  | [] => []
  | (k, j) :: js => (k, j.toValue) :: toFields js

end

/-- The six kinds of documents. -/
inductive Kind
  | null
  | boolean
  | number
  | string
  | array
  | object
deriving DecidableEq

/-- The kind of a document. -/
def kind : Json → Kind
  | null => .null
  | bool _ => .boolean
  | number _ => .number
  | string _ => .string
  | array _ => .array
  | object _ => .object

end Json

namespace Value

mutual

/-- The document of a value. -/
def toJson : Value → Json
  | null => .null
  | bool b => .bool b
  | number (.finite x) => .number x
  | number _ => .null
  | string s => .string s
  | array items => .array (toJsons items)
  | object fields => .object (toMembers fields)

/-- The documents of some values. -/
def toJsons : List Value → List Json
  | [] => []
  | v :: vs => v.toJson :: toJsons vs

/-- The members of some fields. -/
def toMembers : List (String × Value) → List (String × Json)
  | [] => []
  | (k, v) :: vs => (k, v.toJson) :: toMembers vs

end

end Value

end Stencil

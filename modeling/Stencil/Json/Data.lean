import Stencil.Json.Reading

/-!
# Data for a render

The data of a render are the fields of a JSON object. `DataError` tells why a text or a document is
not such data.
-/

namespace Stencil

/-- Why something cannot be the data of a render. -/
inductive DataError
  | notJson
  | notAnObject (found : Json.Kind)
deriving DecidableEq

namespace Json

/-- A kind of documents in words. -/
def Kind.description : Kind → String
  | null => "null"
  | boolean => "a boolean"
  | number => "a number"
  | string => "a string"
  | array => "an array"
  | object => "an object"

/-- What is said of a text that cannot be read as a document, for a reason. -/
def invalid (reason : String) : String :=
  "invalid JSON data: " ++ reason

/-- Why this reader refuses a text. -/
def noDocument : String :=
  "the text is not a JSON document"

/-- A document as the data of a render. -/
def toData : Json → Except DataError (Fields Value)
  | object members => .ok (toFields members)
  | j => .error (.notAnObject j.kind)

/-- A text as the data of a render. -/
def dataOfText (s : String) : Except DataError (Fields Value) :=
  match ofText? s with
  | some j => j.toData
  | none => .error .notJson

end Json

/-- An error in the data, in words. -/
def DataError.message : DataError → String
  | notJson => Json.invalid Json.noDocument
  | notAnObject found => "render data must be a JSON object, found " ++ found.description

end Stencil

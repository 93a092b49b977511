import Stencil.Text.Casing
import Stencil.Value.Coercion

/-!
# Built-in functions

A built-in gets its operands unevaluated and evaluates those that it needs, each once and from left
to right. It is only run with at least as many operands as it needs; an operand beyond those that
are there is `null`. What evaluating an operand does beside giving a value is left open: it can be
any monad.
-/

namespace Stencil

/-- The functions that every template can call. -/
inductive Builtin
  | equal
  | unequal
  | greater
  | less
  | greaterOrEqual
  | lessOrEqual
  | and
  | or
  | not
  | lowercase
  | uppercase
  | trim
  | truncate
  | replace
  | limit
  | first
  | last
  | length
  | join
  | default
deriving DecidableEq

namespace Builtin

/-- All built-ins. -/
def all : List Builtin :=
  [equal, unequal, greater, less, greaterOrEqual, lessOrEqual, and, or, not, lowercase, uppercase,
    trim, truncate, replace, limit, first, last, length, join, default]

/-- The name by which templates call a built-in. -/
def name : Builtin → String
  | equal => "eq"
  | unequal => "ne"
  | greater => "gt"
  | less => "lt"
  | greaterOrEqual => "gte"
  | lessOrEqual => "lte"
  | and => "and"
  | or => "or"
  | not => "not"
  | lowercase => "lowercase"
  | uppercase => "uppercase"
  | trim => "trim"
  | truncate => "truncate"
  | replace => "replace"
  | limit => "limit"
  | first => "first"
  | last => "last"
  | length => "length"
  | join => "join"
  | default => "default"

/-- The number of operands that a built-in needs. -/
def minArgs : Builtin → Nat
  | equal | unequal | greater | less | greaterOrEqual | lessOrEqual => 2
  | and | or | not => 1
  | lowercase | uppercase | trim => 1
  | truncate => 2
  | replace => 3
  | limit => 2
  | first | last | length => 1
  | join | default => 2

section
variable {m : Type → Type} [Monad m]

/-- An operand, which is `null` beyond the last one. -/
def operand (args : List (m Value)) (i : Nat) : m Value :=
  args.getD i (pure .null)

/-- The text of an operand. -/
def textOperand (args : List (m Value)) (i : Nat) : m String :=
  Value.text <$> operand args i

/-- The number of an operand. -/
def numberOperand (args : List (m Value)) (i : Nat) : m Number :=
  Value.toNumber <$> operand args i

/-- The first operand that passes a test, or the last one. The operands after it are not
evaluated. -/
def firstWhere (test : Value → Bool) : List (m Value) → m Value
  | [] => pure .null
  | [x] => x
  | x :: y :: rest => do
    let v ← x
    if test v then pure v else firstWhere test (y :: rest)

/-- Compares the numbers of the first two operands. -/
def compare (test : Number → Number → Bool) (args : List (m Value)) : m Value := do
  let x ← numberOperand args 0
  let y ← numberOperand args 1
  pure (.bool (test x y))

/-- A text that has more characters than a count is cut after that many, and a suffix is put behind
it. The number of characters is compared as a number, and no text is too long for a count that is
not a number. -/
def truncated (s : String) (count : Number) (suffix : String) : String :=
  if count = .nan ∨ (Number.ofNat s.length).lessOrSame count then s
  else String.ofList (s.toList.take count.toCount) ++ suffix

/-- The value of a built-in for some operands. -/
def run (b : Builtin) (args : List (m Value)) : m Value :=
  match b with
  | equal => do
    let x ← operand args 0
    let y ← operand args 1
    pure (.bool (x.same y))
  | unequal => do
    let x ← operand args 0
    let y ← operand args 1
    pure (.bool !(x.same y))
  | greater => compare (fun x y => y.less x) args
  | less => compare Number.less args
  | greaterOrEqual => compare (fun x y => y.lessOrSame x) args
  | lessOrEqual => compare Number.lessOrSame args
  | and => firstWhere (fun v => !v.isTruthy) args
  | or => firstWhere Value.isTruthy args
  | not => do
    let v ← operand args 0
    pure (.bool !v.isTruthy)
  | lowercase => do
    let s ← textOperand args 0
    pure (.string (Text.lowercase s))
  | uppercase => do
    let s ← textOperand args 0
    pure (.string (Text.uppercase s))
  | trim => do
    let s ← textOperand args 0
    pure (.string (String.ofList (Text.trim s.toList)))
  | truncate => do
    let s ← textOperand args 0
    let count ← numberOperand args 1
    let suffix ← if 2 < args.length then textOperand args 2 else pure "..."
    pure (.string (truncated s count suffix))
  | replace => do
    let s ← textOperand args 0
    let old ← textOperand args 1
    let new ← textOperand args 2
    pure (.string (Text.replaceAll old new s))
  | limit => do
    let v ← operand args 0
    let count ← numberOperand args 1
    pure <| match v with
      | .array items => .array (items.take count.toCount)
      | v => v
  | first => do
    let v ← operand args 0
    pure <| match v with
      | .array items => items.head?.getD .null
      | v => v
  | last => do
    let v ← operand args 0
    pure <| match v with
      | .array items => items.getLast?.getD .null
      | v => v
  | length => do
    let v ← operand args 0
    pure <| .ofNat <| match v with
      | .array items => items.length
      | v => v.text.length
  | join => do
    let v ← operand args 0
    let separator ← textOperand args 1
    pure <| .string <| match v with
      | .array items => separator.intercalate (Value.texts items)
      | v => v.text
  | default => do
    let v ← operand args 0
    if v.isTruthy then pure v else operand args 1

end

end Builtin

end Stencil

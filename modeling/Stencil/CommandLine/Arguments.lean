import Stencil.Number.Basic
import Stencil.Number.Digits
import Stencil.Template.Tree

/-!
# Arguments of the program

One argument names the template; options name the data, ask for a check, or set limits. An option is
given at most once, and its value follows it or stands behind an equals sign.
-/

namespace Stencil.CommandLine

/-- What the program is asked to do. -/
structure Invocation where
  template : String
  data : Option String
  check : Bool
  limits : Limits
deriving DecidableEq

/-- Why arguments are refused. -/
inductive UsageError
  | unknownOption (name : String)
  | repeatedOption (name : String)
  | missingValue (name : String)
  | unwantedValue (name : String)
  | notACount (name value : String)
  | emptyPath (name : String)
  | missingTemplate
  | unexpectedArgument (value : String)
deriving DecidableEq

/-- A usage error in words. -/
def UsageError.message : UsageError → String
  | unknownOption name => "unknown option " ++ name
  | repeatedOption name => "option " ++ name ++ " is given twice"
  | missingValue name => "option " ++ name ++ " needs a value"
  | unwantedValue name => "option " ++ name ++ " takes no value"
  | notACount name value => "option " ++ name ++ " needs a number, not " ++ value
  | emptyPath name => name ++ " is empty"
  | missingTemplate => "no template is given"
  | unexpectedArgument value => "unexpected argument " ++ value

/-- The arguments as far as they have been read. -/
structure Draft where
  template : Option String := none
  data : Option String := none
  check : Bool := false
  depth : Option Nat := none
  length : Option Nat := none

/-- Reads a count: digits behind an optional plus, of a number that fits into 64 bits. -/
def count? (s : String) : Option Nat :=
  let digits := match s.toList with
    | '+' :: ds => ds
    | ds => ds
  let n := Digits.ofDigits digits
  if digits ≠ [] ∧ digits.all Char.isDigit ∧ n ≤ Number.maxCount then some n else none

namespace Draft

/-- Sets what may be set once. -/
def once {α : Type} (name : String) (old : Option α) (new : α) : Except UsageError (Option α) :=
  match old with
  | some _ => .error (.repeatedOption name)
  | none => .ok (some new)

/-- Reads the count of an option. -/
def countOf (name value : String) : Except UsageError Nat :=
  match count? value with
  | some n => .ok n
  | none => .error (.notACount name value)

/-- Refuses an empty path. -/
def pathOf (name value : String) : Except UsageError String :=
  if value.isEmpty then .error (.emptyPath name) else .ok value

/-- Takes an argument that is no option. -/
def positional (draft : Draft) (value : String) : Except UsageError Draft := do
  if draft.template.isSome then throw (.unexpectedArgument value)
  let path ← pathOf "template" value
  pure { draft with template := some path }

/-- The options that have a value. -/
def valueOptions : List String :=
  ["--data", "--max-depth", "--max-len"]

/-- Takes an option with a value. -/
def option (draft : Draft) (name value : String) : Except UsageError Draft :=
  match name with
  | "--data" => do
    let data ← once name draft.data (← pathOf name value)
    pure { draft with data }
  | "--max-depth" => do
    let depth ← once name draft.depth (← countOf name value)
    pure { draft with depth }
  | "--max-len" => do
    let length ← once name draft.length (← countOf name value)
    pure { draft with length }
  | "--check" => .error (.unwantedValue name)
  | _ => .error (.unknownOption name)

/-- Takes arguments none of which is an option. -/
def positionals (draft : Draft) : List String → Except UsageError Draft
  | [] => .ok draft
  | a :: rest => do
    let draft ← draft.positional a
    draft.positionals rest

/-- Whether an argument looks like an option; a single `-` does not. -/
def isOption (a : String) : Bool :=
  a.startsWith "-" && a != "-"

/-- Takes some arguments. The value of an option follows it, or stands in the same argument behind
an equals sign. -/
def arguments (draft : Draft) : List String → Except UsageError Draft
  | [] => .ok draft
  | a :: rest =>
    if a = "--" then draft.positionals rest
    else if isOption a then
      let cs := a.toList
      let name := String.ofList (cs.takeWhile (· != '='))
      match cs.dropWhile (· != '=') with
      | _ :: value => do
        let draft ← draft.option name (String.ofList value)
        draft.arguments rest
      | [] =>
        if name = "--check" then
          if draft.check then .error (.repeatedOption name)
          else { draft with check := true }.arguments rest
        else if !valueOptions.contains name then .error (.unknownOption name)
        else
          match rest with
          | value :: rest =>
            if isOption value then .error (.missingValue name)
            else do
              let draft ← draft.option name value
              draft.arguments rest
          | [] => .error (.missingValue name)
    else do
      let draft ← draft.positional a
      draft.arguments rest

/-- The invocation that complete arguments stand for. -/
def finish (draft : Draft) : Except UsageError Invocation :=
  match draft.template with
  | none => .error .missingTemplate
  | some template =>
    let usual : Limits := {}
    .ok ⟨template, draft.data, draft.check, ⟨draft.depth.getD usual.depth, draft.length⟩⟩

end Draft

/-- Reads the arguments of the program. -/
def Invocation.ofArguments (args : List String) : Except UsageError Invocation := do
  let draft ← Draft.arguments {} args
  draft.finish

end Stencil.CommandLine

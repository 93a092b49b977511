import Stencil.CommandLine.Arguments
import Stencil.Evaluation.Check
import Stencil.Evaluation.Render
import Stencil.Json.Data
import Stencil.Template.Block

/-!
# Running the program

The program renders a template against data, or checks the template instead. The template is always
read before the data; standard input can stand for either, and whoever reads it second finds it
empty.

Arguments and JSON documents are read by libraries, and nothing else of the program depends on how
they do that (`Libraries`). `Libraries.run` is the whole program as a function of these libraries,
of its arguments, of the files and of standard input; `run` is the program with its own readers.
-/

namespace Stencil.CommandLine

/-- Why an input cannot be read. -/
inductive ReadError
  | notFound
  | isDirectory
  | notDirectory
  | permissionDenied
  | nameTooLong
  | notText
  | other (reason : String)
deriving DecidableEq

/-- An error of reading in words. -/
def ReadError.message : ReadError → String
  | notFound => "No such file or directory (os error 2)"
  | isDirectory => "Is a directory (os error 21)"
  | notDirectory => "Not a directory (os error 20)"
  | permissionDenied => "Permission denied (os error 13)"
  | nameTooLong => "File name too long (os error 36)"
  | notText => "stream did not contain valid UTF-8"
  | other reason => reason

/-- What the program can read. -/
structure Inputs where
  file : String → Except ReadError ByteArray
  stdin : ByteArray

/-- Bytes as text. -/
def textOf (bytes : ByteArray) : Except ReadError String :=
  match String.fromUTF8? bytes with
  | some s => .ok s
  | none => .error .notText

/-- Whether what follows a step of a path leads nowhere else: there are only slashes and single
points behind them. -/
def staysPut : List Char → Bool
  | [] => true
  | '/' :: '.' :: s => staysPut s
  | '/' :: s => staysPut s
  | _ => false

/-- Whether a path stands for standard input: its first step is a `-`, and no other one leads away
from it. -/
def isStdin (path : String) : Bool :=
  match path.toList with
  | '-' :: s => staysPut s
  | _ => false

/-- The text of an input; `used` tells whether standard input has been read before. -/
def Inputs.read (inputs : Inputs) (used : Bool) (path : String) : Except ReadError String :=
  if isStdin path then textOf (if used then ByteArray.empty else inputs.stdin)
  else (inputs.file path).bind textOf

/-- What the program leaves behind. -/
structure Outcome where
  code : Nat
  stdout : String
  stderr : String
deriving DecidableEq

namespace Outcome

/-- The end of a run that went well. -/
def success (stdout : String) : Outcome :=
  ⟨0, stdout, ""⟩

/-- The end of a run that could not do its work. -/
def failure (reason : String) : Outcome :=
  ⟨2, "", reason ++ "\n"⟩

/-- The end of a check that found problems. -/
def problems (lines : List String) : Outcome :=
  ⟨1, "", String.join (lines.map fun line => line ++ "\n")⟩

end Outcome

/-- A problem as a line. -/
def problemLine (p : Problem) : String :=
  "[" ++ p.flaw.code ++ "] " ++ p.flaw.message ++ " at /" ++ "/".intercalate (p.path.map Step.text)

/-- An input that cannot be read, in words. -/
def unreadable (path : String) (e : ReadError) : String :=
  "cannot read " ++ path ++ ": " ++ e.message

/-- What the program leaves to libraries: they tell what its arguments ask for, and which document a
text is. If they refuse, the reason is in their own words. -/
structure Libraries where
  invocation : List String → Except String Invocation
  document : String → Except String Json
  /-- The empty text is no document. -/
  document_empty (j : Json) : document "" ≠ .ok j

section
variable (libraries : Libraries)

/-- The data that a template is rendered with. Without a path there are no fields. -/
def loadData (inputs : Inputs) (used : Bool) : Option String → Except String (Fields Value)
  | none => .ok []
  | some path => do
    let text ← (inputs.read used path).mapError (unreadable path)
    let document ← (libraries.document text).mapError Json.invalid
    document.toData.mapError DataError.message

/-- Does what the program is asked to do. -/
def Invocation.perform (invocation : Invocation) (inputs : Inputs) : Outcome :=
  match inputs.read false invocation.template with
  | .error e => .failure (unreadable invocation.template e)
  | .ok source =>
    let template := Template.parse invocation.limits source
    if invocation.check then
      match template.check .standard with
      | [] => .success ""
      | found => .problems (found.map problemLine)
    else
      match loadData libraries inputs (isStdin invocation.template) invocation.data with
      | .error reason => .failure reason
      | .ok data => .success (template.render .standard data).value

/-- The program with the libraries. -/
def Libraries.run (inputs : Inputs) (args : List String) : Outcome :=
  match libraries.invocation args with
  | .error reason => .failure reason
  | .ok invocation => invocation.perform libraries inputs

end

/-- The readers of the program itself. -/
def Libraries.own : Libraries where
  invocation args := (Invocation.ofArguments args).mapError fun e => "error: " ++ e.message
  document text := (Json.ofText? text).elim (.error Json.noDocument) .ok
  document_empty _ := nofun

/-- The program. -/
def run (inputs : Inputs) (args : List String) : Outcome :=
  Libraries.own.run inputs args

end Stencil.CommandLine

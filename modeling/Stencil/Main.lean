import Stencil.CommandLine.Run

/-!
# The program

Reads the files that the arguments name and standard input, lets `Stencil.CommandLine.run` decide
what to do with them, and writes what it leaves behind.
-/

namespace Stencil.Program

open CommandLine

/-- The number of a system error; it may come with a minus, counted down from `2 ^ 32`. -/
def errorNumber (code : UInt32) : UInt32 :=
  if code < 0x80000000 then code else 0 - code

/-- What went wrong with a file. -/
def readError : IO.Error → ReadError
  | .noFileOrDirectory _ _ _ => .notFound
  | .inappropriateType _ code _ => if errorNumber code = 21 then .isDirectory else .notDirectory
  | .permissionDenied _ _ _ => .permissionDenied
  | e@(.invalidArgument _ code _) =>
    if errorNumber code = 36 then .nameTooLong else .other (toString e)
  | e => .other (toString e)

/-- The bytes of a file. -/
def readFile (path : String) : IO (Except ReadError ByteArray) := do
  try
    let bytes ← IO.FS.readBinFile path
    return .ok bytes
  catch e => return .error (readError e)

/-- Standard input to its end. -/
def readStdin : IO ByteArray := do
  let stdin ← IO.getStdin
  stdin.readBinToEnd

/-- What the paths of an invocation lead to; nothing else is read. -/
def gather (paths : List String) : IO Inputs := do
  let mut files : Fields (Except ReadError ByteArray) := []
  for path in paths do
    if !isStdin path then
      files := Fields.insert files path (← readFile path)
  let stdin ← if paths.any isStdin then readStdin else pure ByteArray.empty
  let found := files
  return ⟨fun path => (Fields.get? found path).getD (.error .notFound), stdin⟩

/-- The paths that arguments name. -/
def pathsOf (args : List String) : List String :=
  match Invocation.ofArguments args with
  | .ok invocation => invocation.template :: invocation.data.toList
  | .error _ => []

end Stencil.Program

/-- Runs the program. -/
def main (args : List String) : IO UInt32 := do
  let inputs ← Stencil.Program.gather (Stencil.Program.pathsOf args)
  let outcome := Stencil.CommandLine.run inputs args
  IO.print outcome.stdout
  IO.eprint outcome.stderr
  return UInt32.ofNat outcome.code

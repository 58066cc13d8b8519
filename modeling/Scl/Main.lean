import Scl.CommandLine

/-! # The program

Opens the files that the arguments name, and prints what the command makes of them.
-/

namespace Scl

/-- The number of a system error. Some calls report it as a negative number. -/
def errorNumber (code : UInt32) : Nat :=
  min code.toNat (-code).toNat

/-- Why the file system opened nothing; a folder is opened, although it cannot be read. -/
def contentOfError : IO.Error → Except OpenError Content
  | .noFileOrDirectory .. | .noSuchThing .. => .error .notFound
  | .inappropriateType _ code _ =>
    if errorNumber code = 20 then .error .notAFolder else .ok .folder
  | .permissionDenied .. => .error (.other "Permission denied (os error 13)")
  | .invalidArgument _ code detail =>
    .error (if errorNumber code = 36 then .nameTooLong else .other detail)
  | other => .error (.other other.toString)

/-- What a path names in the file system. -/
def openFile (path : String) : IO (Except OpenError Content) := do
  try
    let bytes ← IO.FS.readBinFile path
    return .ok (.file bytes.toList)
  catch error => return contentOfError error

end Scl

open Scl

def main (args : List String) : IO UInt32 := do
  let request := CommandLine.Request.ofArguments args
  let contents ← request.paths.mapM fun path => return (path, ← openFile path)
  let openPath path := (contents.lookup path).getD (.error .notFound)
  let outcome := CommandLine.answer openPath (← IO.getEnv "RUST_LOG") request
  IO.print outcome.output
  IO.eprint outcome.errors
  return outcome.code

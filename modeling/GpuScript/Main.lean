import GpuScript.CommandLine

/-!
# The program

Reads the files that the arguments name, and writes what the run comes to.
-/

namespace GpuScript.Main

/-- The cause with a number, which some calls report with a minus sign. -/
def refusalOf (code : UInt32) (words : String) : FileRefusal :=
  let number := min code.toNat (UInt32.size - code.toNat)
  (FileRefusal.ofNumber? number).getD
    (.other (words ++ " (os error " ++ Text.decimalText number ++ ")"))

/-- Why a file cannot be read. -/
def refusal : IO.Error → FileRefusal
  | .noFileOrDirectory _ code words => refusalOf code words
  | .permissionDenied _ code words => refusalOf code words
  | .inappropriateType _ code words => refusalOf code words
  | .invalidArgument _ code words => refusalOf code words
  | .resourceExhausted _ code words => refusalOf code words
  | .otherError code words => refusalOf code words
  | error => .other (toString error)

/-- The contents of a file, or why it cannot be read. -/
def readFile (name : String) : IO (String × Except FileRefusal ByteArray) := do
  try
    let contents ← IO.FS.readBinFile name
    return (name, .ok contents)
  catch error =>
    return (name, .error (refusal error))

/-- The contents among those that were read. -/
def lookUp (contents : List (String × Except FileRefusal ByteArray)) : Files := fun name =>
  match contents.find? fun entry => entry.1 == name with
  | some entry => entry.2
  | none => .error .missing

end GpuScript.Main

/-- Runs the program with its arguments. -/
def main (arguments : List String) : IO UInt32 := do
  let contents ← (GpuScript.CommandLine.requestedFiles arguments).mapM GpuScript.Main.readFile
  let output := GpuScript.CommandLine.run (GpuScript.Main.lookUp contents) arguments
  IO.print output.out
  IO.eprint output.err
  return output.status

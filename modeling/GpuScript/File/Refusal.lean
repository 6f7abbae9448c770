import GpuScript.Text.Numeral

/-!
# Files that cannot be read

Why a system refuses to read a file by its name. Most causes have a number and words of the system,
and messages show both.
-/

namespace GpuScript

/-- Why a file cannot be read. -/
inductive FileRefusal where
  /-- No file has the name. -/
  | missing
  /-- The file may not be read. -/
  | denied
  /-- The name goes on below something that is no directory. -/
  | notDirectory
  /-- The name is that of a directory. -/
  | isDirectory
  /-- The name, or a part of it, is too long. -/
  | nameTooLong
  /-- The name leads through too many links. -/
  | linkLoop
  /-- The name has a null character. -/
  | nullCharacter
  /-- Any other cause, in the words of the system. -/
  | other (words : String)
  deriving DecidableEq

namespace FileRefusal

/-- The causes with a number. -/
def numbered : List FileRefusal :=
  [missing, denied, notDirectory, isDirectory, nameTooLong, linkLoop]

/-- The number of a cause in the system. -/
def number? : FileRefusal → Option Nat
  | missing => some 2
  | denied => some 13
  | notDirectory => some 20
  | isDirectory => some 21
  | nameTooLong => some 36
  | linkLoop => some 40
  | nullCharacter => none
  | other _ => none

/-- The cause with a number. -/
def ofNumber? (number : Nat) : Option FileRefusal :=
  numbered.find? fun refusal => refusal.number? == some number

/-- The words of the system for a cause. -/
def words : FileRefusal → String
  | missing => "No such file or directory"
  | denied => "Permission denied"
  | notDirectory => "Not a directory"
  | isDirectory => "Is a directory"
  | nameTooLong => "File name too long"
  | linkLoop => "Too many levels of symbolic links"
  | nullCharacter => "file name contained an unexpected NUL byte"
  | other words => words

/-- What messages show of a cause: the words, and the number if there is one. -/
def text (refusal : FileRefusal) : String :=
  match refusal.number? with
  | some number => refusal.words ++ " (os error " ++ Text.decimalText number ++ ")"
  | none => refusal.words

end FileRefusal

/-- The contents of files by name, or why a file cannot be read. -/
abbrev Files : Type := String → Except FileRefusal ByteArray

end GpuScript

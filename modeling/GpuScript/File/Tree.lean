import GpuScript.File.Refusal
import GpuScript.Text.Blank

/-!
# Trees of files

Files in directories, and what a file name stands for among them. A name is walked part by part,
from the root if it opens with a slash and else from the directory that the program runs in. Every
part but a last one needs a directory to start from; an empty part and a single dot stay there, and
two dots go up. So a name that ends in a slash is refused for a file, and the root is its own
parent.
-/

namespace GpuScript

open Text

/-- The names of directories on the way down from the root, and the name of what lies there. -/
abbrev Place : Type := List String

/-- Files in directories. -/
structure FileTree where
  /-- The files with their places; of two files at one place the later one counts. -/
  files : List (Place × ByteArray)
  /-- Directories besides those on the way to a file. -/
  directories : List Place
  /-- The directory that the program runs in. -/
  start : Place

/-- What lies at a place. -/
inductive FileEntry where
  /-- A file, with its contents. -/
  | file (contents : ByteArray)
  /-- A directory. -/
  | directory

namespace FileTree

/-- The parts of a file name between slashes. -/
def nameParts (name : String) : List String :=
  (pieces (· == '/') name.toList).map String.ofList

/-- A tree in which a program runs in a directory that holds nothing but files with names. -/
def ofFiles (directories : List Place) (start : Place) (files : List (String × ByteArray)) :
    FileTree :=
  let placeOf (name : String) : Place :=
    start ++ (nameParts name).filter fun part => part ≠ "" ∧ part ≠ "."
  { files := files.map fun (name, contents) => (placeOf name, contents)
    directories := directories
    start := start }

/-- The place is that of a directory, or on the way to one or to a file. -/
def isDirectory (tree : FileTree) (place : Place) : Bool :=
  place.isPrefixOf tree.start || tree.directories.any (place.isPrefixOf ·)
    || tree.files.any (fun file => place.isPrefixOf file.1)

/-- What lies at a place, if there is something. -/
def entry? (tree : FileTree) (place : Place) : Option FileEntry :=
  match tree.files.reverse.find? (fun file => file.1 == place) with
  | some file => some (.file file.2)
  | none => if tree.isDirectory place then some .directory else none

/-- The most bytes that a part of a file name has. -/
def partLimit : Nat := 255

/-- The most bytes that a file name has. -/
def nameLimit : Nat := 4095

/-- The place that a part of a name leads to from a directory. -/
def descend (place : Place) (part : String) : Except FileRefusal Place :=
  if part = "" ∨ part = "." then .ok place
  else if part = ".." then .ok place.dropLast
  else if partLimit < part.utf8ByteSize then .error .nameTooLong
  else .ok (place ++ [part])

/-- The place that the parts of a name lead to. Each part is taken from a directory. -/
def walk (tree : FileTree) (place : Place) : List String → Except FileRefusal Place
  | [] => .ok place
  | part :: rest =>
    match tree.entry? place with
    | none => .error .missing
    | some (.file _) => .error .notDirectory
    | some .directory =>
      match descend place part with
      | .error refusal => .error refusal
      | .ok next => tree.walk next rest

/-- The contents of the file at a place. -/
def contentsAt (tree : FileTree) (place : Place) : Except FileRefusal ByteArray :=
  match tree.entry? place with
  | none => .error .missing
  | some .directory => .error .isDirectory
  | some (.file contents) => .ok contents

/-- The directory from which a name is walked. -/
def origin (tree : FileTree) (name : String) : Place :=
  if name.toList.head? = some '/' then [] else tree.start

/-- The contents of the file with a name. -/
def read (tree : FileTree) : Files := fun name =>
  if name.toList.contains (Char.ofNat 0) then
    .error .nullCharacter
  else if name.isEmpty then
    .error .missing
  else if nameLimit < name.utf8ByteSize then
    .error .nameTooLong
  else
    match tree.walk (tree.origin name) (nameParts name) with
    | .error refusal => .error refusal
    | .ok place => tree.contentsAt place

end FileTree

end GpuScript

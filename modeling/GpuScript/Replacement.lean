/-!
# Token replacements

A replacement puts a text in the place of a token wherever the token occurs in a line. A line is
worked through from its front: at each place the first replacement whose token stands there is
applied, again and again with the result, before the place moves on by one character. What lies
before the place is never changed any more.

The number of substitutions in a line is bounded, so that replacements that feed each other are
refused.
-/

namespace GpuScript

/-- A token and the text that takes its place. -/
structure Replacement where
  /-- The text that is looked for. -/
  token : String
  /-- The text that takes its place. -/
  text : String
  deriving DecidableEq

namespace Replacement

/-- The replacement written as a token, an equals sign and a text. The token ends at the first
equals sign and is not empty. -/
def parse? (argument : String) : Option Replacement :=
  let characters := argument.toList
  let token := characters.takeWhile (· ≠ '=')
  match characters.dropWhile (· ≠ '=') with
  | [] => none
  | _ :: text =>
    if token.isEmpty then none else some ⟨String.ofList token, String.ofList text⟩

/-- The message for an argument that is no replacement. -/
def invalidMessage (argument : String) : String :=
  "invalid token replacement: " ++ argument

/-- The most substitutions that a line may take. -/
def limit : Nat := 999

/-- The text after the first replacement that applies at its front; none if no token stands
there. -/
def substitute? (replacements : List Replacement) (text : List Char) : Option (List Char) :=
  replacements.findSome? fun replacement =>
    (replacement.token.toList.isPrefixOf? text).map fun rest => replacement.text.toList ++ rest

/-- Walks over a text to the first place where a replacement applies. What lies before that place is
kept, and what stands there after the substitution is handed on. -/
def walk? (replacements : List Replacement) (resume : List Char → Option (List Char)) :
    List Char → Option (List Char)
  | [] =>
    match substitute? replacements [] with
    | some replaced => resume replaced
    | none => some []
  | first :: rest =>
    match substitute? replacements (first :: rest) with
    | some replaced => resume replaced
    | none => (walk? replacements resume rest).map (first :: ·)

/-- A text with the replacements applied from its front, with so many substitutions allowed; none
if it takes more. -/
def expand? (replacements : List Replacement) : Nat → List Char → Option (List Char)
  | 0, text => walk? replacements (fun _ => none) text
  | allowed + 1, text => walk? replacements (expand? replacements allowed) text

/-- A line with the replacements applied. -/
def applyAll? (replacements : List Replacement) : List Char → Option (List Char)
  | [] => some []
  | first :: rest => expand? replacements limit (first :: rest)

end Replacement

end GpuScript

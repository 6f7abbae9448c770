import GpuScript.Text.Blank
import GpuScript.Text.Lines
import GpuScript.Text.Numeral
import GpuScript.Token.Line

/-!
# Shaders as hexadecimal words

The words of an assembled shader, each in hexadecimal, with blanks between them and comments from
`#` to the end of the line.
-/

namespace GpuScript.ShaderWords

open Text

/-- The value of a word: hexadecimal digits, after an optional `0x` and an optional plus sign. -/
def value? (word : List Char) : Option UInt32 :=
  match word with
  | '0' :: 'x' :: digits => hexWord32? digits
  | '0' :: 'X' :: digits => hexWord32? digits
  | digits => hexWord32? digits

/-- The value of a word on a line; a word that is refused is the cause. -/
def read (line : Nat) (word : List Char) : Except (Located String) UInt32 :=
  match value? word with
  | some value => .ok value
  | none => .error ⟨line, String.ofList word⟩

/-- The values of the words on lines, the first of which has the given number. -/
def readLines (line : Nat) : List (List Char) → Except (Located String) (List UInt32)
  | [] => .ok []
  | first :: rest => do
    let values ← (words (beforeComment first)).mapM (read line)
    let others ← readLines (line + 1) rest
    .ok (values ++ others)

/-- The values of the words in the body of a section whose first line has the given number. -/
def parse (text : String) (firstLine : Nat) : Except (Located String) (List UInt32) :=
  readLines firstLine (physicalLines text.toList)

/-- The message for a word that is refused. -/
def invalidMessage (word : String) : String :=
  "Invalid hex value: " ++ word

end GpuScript.ShaderWords

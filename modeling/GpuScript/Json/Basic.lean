import GpuScript.Decimal.Shortest

/-!
# JSON values

Values of the JSON data format, with members in a fixed order, and their text over several lines:
two spaces of indent for each level, one item or member a line, and nothing between the brackets of
an empty array or object. A floating-point number has at least one fraction digit, and one that is
not finite is null.
-/

namespace GpuScript

open Text

/-- A JSON value. Floating-point numbers keep their precision, which decides their digits. -/
inductive Json where
  /-- The null value. -/
  | null
  /-- A truth value. -/
  | bool (value : Bool)
  /-- An integer. -/
  | integer (value : Int)
  /-- A floating-point number. -/
  | float (precision : Precision) (value : Binary precision)
  /-- A string. -/
  | string (value : String)
  /-- An array. -/
  | array (items : List Json)
  /-- An object, its members in order. -/
  | object (members : List (String × Json))

namespace Json

/-- A natural number as a JSON value. -/
def natural (value : Nat) : Json :=
  .integer value

/-- A number of 32 bits as a JSON value. -/
def single (value : Single) : Json :=
  .float .single value

/-- A hexadecimal digit in lower case. -/
def hexDigit (value : Nat) : Char :=
  (Nat.digitChar value)

/-- A character as it stands in a string. -/
def escaped (character : Char) : List Char :=
  if character = '"' then ['\\', '"']
  else if character = '\\' then ['\\', '\\']
  else if character = '\n' then ['\\', 'n']
  else if character = '\r' then ['\\', 'r']
  else if character = '\t' then ['\\', 't']
  else if character.toNat = 8 then ['\\', 'b']
  else if character.toNat = 12 then ['\\', 'f']
  else if character.toNat < 32 then
    ['\\', 'u', '0', '0', hexDigit (character.toNat / 16), hexDigit (character.toNat % 16)]
  else [character]

/-- The text of a string, in quotes. -/
def quoted (value : String) : String :=
  String.ofList ('"' :: (value.toList.flatMap escaped ++ ['"']))

/-- A line end and the indent of a level. -/
def newLine (level : Nat) : String :=
  String.ofList ('\n' :: List.replicate (2 * level) ' ')

mutual

/-- The text of a value whose first line stands at a level. -/
def pretty (level : Nat) : Json → String
  | .null => "null"
  | .bool value => if value then "true" else "false"
  | .integer value => integerText value
  | .float _ value => value.fractionText?.getD "null"
  | .string value => quoted value
  | .array [] => "[]"
  | .array (first :: rest) =>
    "[" ++ newLine (level + 1) ++ pretty (level + 1) first ++ prettyItems (level + 1) rest
      ++ newLine level ++ "]"
  | .object [] => "\x7b\x7d"
  | .object ((name, first) :: rest) =>
    "\x7b" ++ newLine (level + 1) ++ quoted name ++ ": " ++ pretty (level + 1) first
      ++ prettyMembers (level + 1) rest ++ newLine level ++ "\x7d"

/-- The text of the items after the first one. -/
def prettyItems (level : Nat) : List Json → String
  | [] => ""
  | item :: rest => "," ++ newLine level ++ pretty level item ++ prettyItems level rest

/-- The text of the members after the first one. -/
def prettyMembers (level : Nat) : List (String × Json) → String
  | [] => ""
  | (name, value) :: rest =>
    "," ++ newLine level ++ quoted name ++ ": " ++ pretty level value ++ prettyMembers level rest

end

/-- The text of a value over several lines. -/
def text (value : Json) : String :=
  value.pretty 0

end Json

end GpuScript

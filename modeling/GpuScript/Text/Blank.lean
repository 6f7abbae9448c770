/-!
# Blank characters, pieces and words

The characters with the Unicode property White_Space, and what depends on them: trimming a text at
either end, cutting it into words, and lines without content. Texts are lists of characters here,
because every scanner of the library walks them from the front.
-/

namespace GpuScript.Text

/-- Code points with the Unicode property White_Space, in increasing order. -/
def blankCodes : List Nat :=
  [0x09, 0x0A, 0x0B, 0x0C, 0x0D, 0x20, 0x85, 0xA0, 0x1680, 0x2000, 0x2001, 0x2002, 0x2003, 0x2004,
    0x2005, 0x2006, 0x2007, 0x2008, 0x2009, 0x200A, 0x2028, 0x2029, 0x202F, 0x205F, 0x3000]

/-- A character is blank when it has the property White_Space. -/
def isBlank (character : Char) : Bool :=
  blankCodes.contains character.toNat

/-- The text without the blank characters at its start. -/
def trimStart (text : List Char) : List Char :=
  text.dropWhile isBlank

/-- The text without the blank characters at its end. -/
def trimEnd (text : List Char) : List Char :=
  (text.reverse.dropWhile isBlank).reverse

/-- The text without the blank characters at both ends. -/
def trim (text : List Char) : List Char :=
  trimEnd (trimStart text)

/-- The pieces of a list between the elements that separate, empty pieces included: a list with `n`
separators has `n + 1` pieces. -/
def pieces {α : Type} (separates : α → Bool) : List α → List (List α)
  | [] => [[]]
  | element :: rest =>
    match pieces separates rest with
    | [] => [[element]]
    | first :: others =>
      if separates element then [] :: first :: others else (element :: first) :: others

/-- The non-empty pieces of a text between blank characters. -/
def words (text : List Char) : List (List Char) :=
  (pieces isBlank text).filter (fun piece => !piece.isEmpty)

/-- The text of a line before its comment, which starts at a number sign. -/
def beforeComment (line : List Char) : List Char :=
  line.takeWhile (· ≠ '#')

/-- A line has nothing but blank characters and a comment. -/
def isBlankLine (line : List Char) : Bool :=
  (beforeComment line).all isBlank

/-- A list has at least one piece. -/
theorem pieces_ne_nil {α : Type} (separates : α → Bool) (elements : List α) :
    pieces separates elements ≠ [] := by
  cases elements with
  | nil => simp [pieces]
  | cons element rest =>
    simp only [pieces]
    split
    · simp
    · split <;> simp

/-- A list that opens with a separator has an empty first piece. -/
theorem pieces_cons_of_separates {α : Type} {separates : α → Bool} {element : α} {rest : List α}
    (h : separates element = true) :
    pieces separates (element :: rest) = [] :: pieces separates rest := by
  have nonempty := pieces_ne_nil separates rest
  simp only [pieces]
  split
  · contradiction
  · simp_all

end GpuScript.Text

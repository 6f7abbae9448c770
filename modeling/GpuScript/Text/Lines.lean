/-!
# Physical lines

A text is the sequence of its physical lines, each with the line end that closes it; only the last
line may lack one. The cut is the same for characters and for bytes, so it is stated for any type.
-/

namespace GpuScript.Text

/-- The runs of a list that end at an element that closes, the closing element included; what
follows the last closing element is one more run unless it is empty. -/
def splitAfter {α : Type} (closes : α → Bool) : List α → List (List α)
  | [] => []
  | element :: rest =>
    if closes element then
      [element] :: splitAfter closes rest
    else
      match splitAfter closes rest with
      | [] => [[element]]
      | first :: others => (element :: first) :: others

/-- The physical lines of a text, line ends included. -/
def physicalLines (text : List Char) : List (List Char) :=
  splitAfter (fun character => character == '\n') text

/-- Cutting a list into runs loses nothing and reorders nothing. -/
@[simp]
theorem flatten_splitAfter {α : Type} (closes : α → Bool) (elements : List α) :
    (splitAfter closes elements).flatten = elements := by
  induction elements with
  | nil => rfl
  | cons element rest ih =>
    simp only [splitAfter]
    split
    · simp [ih]
    · split <;> simp_all

/-- No run is empty. -/
theorem ne_nil_of_mem_splitAfter {α : Type} {closes : α → Bool} {elements run : List α}
    (h : run ∈ splitAfter closes elements) : run ≠ [] := by
  induction elements generalizing run with
  | nil => simp [splitAfter] at h
  | cons element rest ih =>
    simp only [splitAfter] at h
    split at h
    · rcases List.mem_cons.1 h with rfl | h
      · simp
      · exact ih h
    · split at h
      · simp_all
      · rename_i first others equation
        rcases List.mem_cons.1 h with rfl | h
        · simp
        · exact ih (equation ▸ List.mem_cons_of_mem _ h)

end GpuScript.Text

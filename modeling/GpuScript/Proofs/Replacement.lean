import GpuScript.Replacement
import Mathlib.Data.List.Basic

/-!
# Replacements within a line

Replacements without line ends neither make a line end nor remove one: a text stays on its line, and
the end of the line stays where it is (`Replacement.Ended.applyAll?`).
-/

namespace GpuScript

namespace Replacement

/-- No line end takes part in the replacement. -/
def Inline (replacement : Replacement) : Prop :=
  '\n' ∉ replacement.token.toList ∧ '\n' ∉ replacement.text.toList

instance (replacement : Replacement) : Decidable replacement.Inline :=
  inferInstanceAs (Decidable (_ ∧ _))

/-- A text without line ends up to what ends it: a line end, or nothing. -/
def Ended (ending text : List Char) : Prop :=
  (ending = [] ∨ ending = ['\n']) ∧ ∃ content, '\n' ∉ content ∧ text = content ++ ending

variable {replacements : List Replacement}

/-- A substitution puts the text of a replacement in the place of its token. -/
theorem exists_of_substitute? {text replaced : List Char}
    (found : substitute? replacements text = some replaced) :
    ∃ replacement ∈ replacements, ∃ rest, text = replacement.token.toList ++ rest ∧
      replaced = replacement.text.toList ++ rest := by
  obtain ⟨replacement, listed, made⟩ := List.exists_of_findSome?_eq_some found
  obtain ⟨rest, opens, rfl⟩ := Option.map_eq_some_iff.mp made
  exact ⟨replacement, listed, rest, (List.isPrefixOf?_eq_some_iff_append_eq.mp opens).symm, rfl⟩

/-- A token that stands at the end of a text, where nothing is left, stands everywhere. -/
theorem substitute?_nil_of_none {text : List Char} (absent : substitute? replacements text = none) :
    substitute? replacements [] = none := by
  refine List.findSome?_eq_none_iff.mpr fun replacement listed => ?_
  have none_ := List.findSome?_eq_none_iff.mp absent replacement listed
  cases token : replacement.token.toList with
  | nil =>
    rw [token] at none_
    cases none_
  | cons first rest => rfl

/-- A substitution keeps the end of a line. -/
theorem Ended.substitute? (inline : ∀ replacement ∈ replacements, replacement.Inline)
    {ending text replaced : List Char} (ended : Ended ending text)
    (found : substitute? replacements text = some replaced) : Ended ending replaced := by
  obtain ⟨shape, content, open_, rfl⟩ := ended
  obtain ⟨replacement, listed, rest, split, rfl⟩ := exists_of_substitute? found
  obtain ⟨token, text⟩ := inline replacement listed
  refine ⟨shape, ?_⟩
  rcases List.append_eq_append_iff.mp split with ⟨more, whole, tail⟩ | ⟨more, whole, tail⟩
  · -- The token reaches into the ending, which it can only do with nothing.
    have none_ : more = [] := by
      rcases shape with rfl | rfl
      · exact (List.append_eq_nil_iff.mp tail.symm).1
      · rcases List.singleton_eq_append_iff.mp tail with ⟨empty, _⟩ | ⟨newline, _⟩
        · exact empty
        · rw [whole, newline] at token
          simp at token
    subst none_
    exact ⟨replacement.text.toList, text, by rw [tail, List.nil_append]⟩
  · have plain : '\n' ∉ more := fun inside => open_ (whole ▸ List.mem_append_right _ inside)
    refine ⟨replacement.text.toList ++ more, ?_, by rw [tail, List.append_assoc]⟩
    exact fun inside => (List.mem_append.mp inside).elim text plain

/-- Walking over a text keeps the end of a line if what is done after the walk does. -/
theorem Ended.walk? (inline : ∀ replacement ∈ replacements, replacement.Inline)
    {resume : List Char → Option (List Char)} {ending : List Char}
    (onward : ∀ {text result}, Ended ending text → resume text = some result →
      Ended ending result)
    {text result : List Char} (ended : Ended ending text)
    (walked : walk? replacements resume text = some result) : Ended ending result := by
  induction text generalizing result with
  | nil =>
    rw [Replacement.walk?] at walked
    cases found : Replacement.substitute? replacements [] with
    | none =>
      rw [found] at walked
      exact Option.some.inj walked ▸ ended
    | some replaced =>
      rw [found] at walked
      exact onward (ended.substitute? inline found) walked
  | cons first rest ih =>
    rw [Replacement.walk?] at walked
    cases found : Replacement.substitute? replacements (first :: rest) with
    | some replaced =>
      rw [found] at walked
      exact onward (ended.substitute? inline found) walked
    | none =>
      rw [found] at walked
      obtain ⟨later, inner, rfl⟩ := Option.map_eq_some_iff.mp walked
      obtain ⟨shape, content, open_, split⟩ := ended
      cases content with
      | nil =>
        -- Only the line end is left: no token stands behind it, so the walk ends there.
        obtain rfl : ending = ['\n'] := shape.resolve_left (by rintro rfl; cases split)
        obtain ⟨rfl, rfl⟩ := List.cons.inj split
        rw [Replacement.walk?, substitute?_nil_of_none found] at inner
        exact ⟨shape, [], open_, Option.some.inj inner ▸ rfl⟩
      | cons character content =>
        obtain ⟨rfl, tail⟩ := List.cons.inj split
        obtain ⟨plain, others⟩ := not_or.mp (List.mem_cons.not.mp open_)
        obtain ⟨_, content', open', same⟩ := ih ⟨shape, content, others, tail⟩ inner
        refine ⟨shape, first :: content', ?_, congrArg (first :: ·) same⟩
        exact List.mem_cons.not.mpr (not_or.mpr ⟨plain, open'⟩)

/-- Replacements keep the end of a line, however many substitutions are made. -/
theorem Ended.expand? (inline : ∀ replacement ∈ replacements, replacement.Inline)
    {ending text result : List Char} {allowed : Nat} (ended : Ended ending text)
    (expanded : expand? replacements allowed text = some result) : Ended ending result := by
  induction allowed generalizing text result with
  | zero => exact ended.walk? inline (fun _ refused => by cases refused) expanded
  | succ allowed ih => exact ended.walk? inline (fun inner made => ih inner made) expanded

/-- Replacements keep the end of a line. -/
theorem Ended.applyAll? (inline : ∀ replacement ∈ replacements, replacement.Inline)
    {ending text result : List Char} (ended : Ended ending text)
    (expanded : applyAll? replacements text = some result) : Ended ending result := by
  cases text with
  | nil => exact Option.some.inj expanded ▸ ended
  | cons first rest => exact ended.expand? inline expanded

/-- A line without its end has none after its replacements. -/
theorem newline_not_mem_of_applyAll? (inline : ∀ replacement ∈ replacements, replacement.Inline)
    {line expanded : List Char} (open_ : '\n' ∉ line)
    (applied : applyAll? replacements line = some expanded) : '\n' ∉ expanded := by
  have ended : Ended [] line := ⟨Or.inl rfl, line, open_, (List.append_nil line).symm⟩
  obtain ⟨_, content, inner, same⟩ := ended.applyAll? inline applied
  rwa [same, List.append_nil]

/-- A line with its end keeps it. -/
theorem exists_of_applyAll?_closed (inline : ∀ replacement ∈ replacements, replacement.Inline)
    {content expanded : List Char} (open_ : '\n' ∉ content)
    (applied : applyAll? replacements (content ++ ['\n']) = some expanded) :
    ∃ inner, '\n' ∉ inner ∧ expanded = inner ++ ['\n'] := by
  have ended : Ended ['\n'] (content ++ ['\n']) := ⟨Or.inr rfl, content, open_, rfl⟩
  exact (ended.applyAll? inline applied).2

end Replacement

end GpuScript

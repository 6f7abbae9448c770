import GpuScript.Proofs.Checked.Text
import GpuScript.Proofs.Replacement

/-!
# Replacements at places

The replacements of a line made in the line itself: a place moves through it, and what stands there
is exchanged. The line may become longer or shorter on the way, but what lies before the place
stays, so the place stays one (`applyFrom?_append`). Every part that is looked at or exchanged is
one, and the line is the one that the replacements give (`applyAll?_eq`).
-/

namespace GpuScript.Checked

open Replacement (limit substitute? walk? expand?)

/-- The number of bytes by which a place moves on: those of the character there, or one at the end
of the line. -/
def stride : List Char → Nat
  | [] => 1
  | first :: _ => first.utf8Size

/-- A place moves on by a byte at least. -/
theorem stride_pos (rest : List Char) : 0 < stride rest := by
  cases rest with
  | nil => exact Nat.one_pos
  | cons first rest => exact first.utf8Size_pos

/-- A line with the replacements made from a place on, after a number of substitutions: nothing if
a part is asked for that is none, and no line if there are too many substitutions. -/
def applyFrom? (replacements : List Replacement) (line : List Char) (place count : Nat) :
    Option (Option (List Char)) := do
  let rest ← slice? line place (byteLength line)
  match replacements.find? fun replacement => replacement.token.toList.isPrefixOf rest with
  | some replacement =>
    if limit ≤ count then
      some none
    else
      let stop := place + byteLength replacement.token.toList
      let replaced ← replace? line place stop replacement.text.toList
      applyFrom? replacements replaced place (count + 1)
  | none =>
    if place + stride rest < byteLength line then
      applyFrom? replacements line (place + stride rest) count
    else
      some (some line)
  termination_by (limit - count, byteLength line - place)
  decreasing_by
    · omega
    · have onward := stride_pos rest
      omega

/-- A line with the replacements made. -/
def applyAll? (replacements : List Replacement) (line : List Char) : Option (Option (List Char)) :=
  if 0 < byteLength line then applyFrom? replacements line 0 0 else some (some line)

variable {replacements : List Replacement}

/-- Nothing is substituted if no token opens the text. -/
theorem substitute?_of_find?_none {text : List Char}
    (absent : replacements.find? (fun replacement => replacement.token.toList.isPrefixOf text) =
      none) : substitute? replacements text = none := by
  refine List.findSome?_eq_none_iff.mpr fun replacement listed => ?_
  have other := List.find?_eq_none.mp absent replacement listed
  cases opens : replacement.token.toList.isPrefixOf? text with
  | none => rfl
  | some rest =>
    have whole := List.isPrefixOf?_eq_some_iff_append_eq.mp opens
    refine absurd ?_ other
    rw [List.isPrefixOf_iff_prefix, ← whole]
    exact List.prefix_append _ _

/-- The first replacement whose token opens the text is made. -/
theorem exists_of_find? {text : List Char} {replacement : Replacement}
    (first : replacements.find? (fun replacement => replacement.token.toList.isPrefixOf text) =
      some replacement) :
    ∃ after, text = replacement.token.toList ++ after ∧
      substitute? replacements text = some (replacement.text.toList ++ after) := by
  obtain ⟨opens, before, later, rfl, others⟩ := List.find?_eq_some_iff_append.mp first
  obtain ⟨after, rfl⟩ := List.isPrefixOf_iff_prefix.mp opens
  refine ⟨after, rfl, ?_⟩
  have passed : substitute? before (replacement.token.toList ++ after) = none := by
    refine substitute?_of_find?_none (List.find?_eq_none.mpr fun other listed => ?_)
    exact Bool.eq_false_iff.mp (by simpa only [Bool.not_eq_true'] using others other listed)
  have own : replacement.token.toList.isPrefixOf? (replacement.token.toList ++ after) =
      some after := List.isPrefixOf?_eq_some_iff_append_eq.mpr rfl
  calc
    substitute? (before ++ replacement :: later) (replacement.token.toList ++ after)
    _ = (substitute? before (replacement.token.toList ++ after)).or
        (substitute? (replacement :: later) (replacement.token.toList ++ after)) :=
      List.findSome?_append
    _ = some (replacement.text.toList ++ after) := by
      rw [passed, Option.none_or, substitute?, List.findSome?_cons, own, Option.map_some]

/-- A substitution exchanges the token at the place. -/
theorem applyFrom?_of_find? (done : List Char) {rest : List Char} {replacement : Replacement}
    (first : replacements.find? (fun replacement => replacement.token.toList.isPrefixOf rest) =
      some replacement) (count : Nat) :
    ∃ replaced, substitute? replacements rest = some replaced ∧
      applyFrom? replacements (done ++ rest) (byteLength done) count =
        if limit ≤ count then some none
        else applyFrom? replacements (done ++ replaced) (byteLength done) (count + 1) := by
  obtain ⟨after, split, made⟩ := exists_of_find? first
  refine ⟨_, made, ?_⟩
  have here := slice?_rest done rest
  have exchanged := replace?_append done replacement.token.toList after replacement.text.toList
  rw [← split] at exchanged
  rw [applyFrom?, here]
  simp only [Option.bind_eq_bind, Option.bind_some, first, exchanged]

/-- Where no token stands the place moves on by one character, up to the end of the line. -/
theorem applyFrom?_cons_of_none (done : List Char) {first : Char} {rest : List Char}
    (absent : replacements.find? (fun replacement =>
      replacement.token.toList.isPrefixOf (first :: rest)) = none) (count : Nat) :
    applyFrom? replacements (done ++ first :: rest) (byteLength done) count =
      if rest = [] then some (some (done ++ [first]))
      else applyFrom? replacements ((done ++ [first]) ++ rest) (byteLength (done ++ [first])) count
    := by
  have here := slice?_rest done (first :: rest)
  have next : byteLength done + stride (first :: rest) = byteLength (done ++ [first]) := by
    simp [stride]
  have whole : done ++ first :: rest = (done ++ [first]) ++ rest := by simp
  rw [applyFrom?, here]
  simp only [Option.bind_eq_bind, Option.bind_some, absent]
  rw [next, whole, byteLength_append (done ++ [first])]
  by_cases last : rest = []
  · rw [if_pos last, if_neg (by simp [last]), last, List.append_nil]
  · have more := byteLength_pos_iff.mpr last
    rw [if_neg last, if_pos (by omega)]

/-- Where nothing is left the line is done. -/
theorem applyFrom?_nil_of_none (done : List Char)
    (absent : replacements.find? (fun replacement =>
      replacement.token.toList.isPrefixOf []) = none) (count : Nat) :
    applyFrom? replacements (done ++ []) (byteLength done) count = some (some done) := by
  have here := slice?_rest done []
  rw [applyFrom?, here]
  simp only [Option.bind_eq_bind, Option.bind_some, absent, List.append_nil]
  rw [if_neg (Nat.not_lt.mpr (Nat.le_add_right _ _))]

/-- Walking over what is left of a line from a place on, when a substitution is carried on as the
walk says. -/
theorem applyFrom?_eq_walk? {resume : List Char → Option (List Char)} {count : Nat}
    (onward : ∀ done replaced, (if limit ≤ count then some none
      else applyFrom? replacements (done ++ replaced) (byteLength done) (count + 1)) =
        some ((resume replaced).map (done ++ ·)))
    (done rest : List Char) :
    applyFrom? replacements (done ++ rest) (byteLength done) count =
      some ((walk? replacements resume rest).map (done ++ ·)) := by
  induction rest generalizing done with
  | nil =>
    cases first : replacements.find? fun replacement => replacement.token.toList.isPrefixOf [] with
    | none =>
      rw [applyFrom?_nil_of_none done first, walk?, substitute?_of_find?_none first]
      simp
    | some replacement =>
      obtain ⟨replaced, made, step⟩ := applyFrom?_of_find? done first count
      rw [step, onward, walk?, made]
  | cons character rest ih =>
    cases first : replacements.find? fun replacement =>
      replacement.token.toList.isPrefixOf (character :: rest) with
    | none =>
      have absent := substitute?_of_find?_none first
      rw [applyFrom?_cons_of_none done first, walk?, absent]
      by_cases last : rest = []
      · -- No token stands behind the last character, so the walk ends there.
        rw [if_pos last, last, walk?, Replacement.substitute?_nil_of_none absent]
        rfl
      · rw [if_neg last, ih]
        simp only [Option.map_map, Option.some.injEq]
        refine congrArg (Option.map · _) (funext fun later => ?_)
        simp
    | some replacement =>
      obtain ⟨replaced, made, step⟩ := applyFrom?_of_find? done first count
      rw [step, onward, walk?, made]

/-- From a place on a line is expanded with the substitutions that are left. -/
theorem applyFrom?_append {allowed count : Nat} (all : count + allowed = limit)
    (done rest : List Char) :
    applyFrom? replacements (done ++ rest) (byteLength done) count =
      some ((expand? replacements allowed rest).map (done ++ ·)) := by
  induction allowed generalizing count done rest with
  | zero =>
    refine applyFrom?_eq_walk? (fun done replaced => ?_) done rest
    rw [if_pos (by omega)]
    rfl
  | succ allowed ih =>
    refine applyFrom?_eq_walk? (fun done replaced => ?_) done rest
    rw [if_neg (by omega)]
    exact ih (by omega) done replaced

/-- Whatever the replacements and the line, every part that is asked for is one. -/
theorem applyAll?_eq (replacements : List Replacement) (line : List Char) :
    applyAll? replacements line = some (Replacement.applyAll? replacements line) := by
  cases line with
  | nil => rfl
  | cons first rest =>
    have more := byteLength_pos_iff.mpr (List.cons_ne_nil first rest)
    have whole := @applyFrom?_append replacements limit 0 (Nat.zero_add limit) [] (first :: rest)
    rw [applyAll?, if_pos more]
    simpa [Replacement.applyAll?] using whole

end GpuScript.Checked

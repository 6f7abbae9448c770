import GpuScript.Proofs.Checked.Replacement
import GpuScript.Source
import Mathlib.Logic.Relation
import Mathlib.Order.RelClasses

/-!
# Working through a line

Replacements are made in the line itself while a place moves through it: a token that stands at the
place is exchanged and the place stays, and where no token stands the place moves on by one
character (`Replacement.Progress.Step`).

As the text of a replacement may be longer than its token, or hold tokens again, neither the place
nor the rest of the line says how much is left to do. What every step makes smaller is the pair of
the substitutions that are left and the characters behind the place, the substitutions first
(`Replacement.Progress.wellFounded_step`). So every run ends, and it ends as reading the line does:
with the whole line done, or with a token for which no substitution is left
(`Source.expand_of_runs`).
-/

namespace GpuScript

namespace Replacement

variable {replacements : List Replacement}

/-- The first replacement whose token stands at the front of a text. -/
def opening? (replacements : List Replacement) (text : List Char) : Option Replacement :=
  replacements.find? fun replacement => replacement.token.toList.isPrefixOf text

/-- An empty token stands everywhere. -/
theorem opening?_ne_none_of_empty (empty : ∃ replacement ∈ replacements, replacement.token = "")
    (text : List Char) : opening? replacements text ≠ none := by
  obtain ⟨replacement, listed, token⟩ := empty
  intro absent
  exact List.find?_eq_none.mp absent replacement listed (by simp [token])

/-- A substitution takes one of those that are allowed. -/
theorem expand?_succ_of_some {text replaced : List Char}
    (made : substitute? replacements text = some replaced) (allowed : Nat) :
    expand? replacements (allowed + 1) text = expand? replacements allowed replaced := by
  cases text <;> rw [expand?, walk?, made]

/-- A token is refused if no substitution is allowed. -/
theorem expand?_zero_of_some {text replaced : List Char}
    (made : substitute? replacements text = some replaced) :
    expand? replacements 0 text = none := by
  cases text <;> rw [expand?, walk?, made]

/-- A character where no token stands is kept. -/
theorem expand?_cons_of_none {first : Char} {rest : List Char}
    (absent : substitute? replacements (first :: rest) = none) (allowed : Nat) :
    expand? replacements allowed (first :: rest) =
      (expand? replacements allowed rest).map (first :: ·) := by
  cases allowed <;> rw [expand?, walk?, absent] <;> rfl

/-- Where nothing is left and no token stands, nothing is added. -/
theorem expand?_nil_of_none (absent : substitute? replacements [] = none) (allowed : Nat) :
    expand? replacements allowed [] = some [] := by
  cases allowed <;> rw [expand?, walk?, absent]

/-- A line while replacements are made in it. -/
structure Progress where
  /-- The line as it is now. -/
  line : List Char
  /-- The place up to which the line is done. -/
  place : Nat
  /-- The number of substitutions so far. -/
  substitutions : Nat
  /-- The place is one of the line, or its end. -/
  inside : place ≤ line.length
  deriving DecidableEq

namespace Progress

/-- Nothing is done yet. -/
def start (line : List Char) : Progress :=
  ⟨line, 0, 0, Nat.zero_le _⟩

/-- The text before the place. -/
def done (progress : Progress) : List Char :=
  progress.line.take progress.place

/-- The text before the place ends at the place. -/
theorem length_done (progress : Progress) : progress.done.length = progress.place :=
  List.length_take_of_le progress.inside

/-- The text from the place on. -/
def rest (progress : Progress) : List Char :=
  progress.line.drop progress.place

/-- The token at the place is exchanged for the text of its replacement. The place stays. -/
def exchange (replacement : Replacement) (progress : Progress) : Progress where
  line := progress.done ++ replacement.text.toList ++
    progress.line.drop (progress.place + replacement.token.toList.length)
  place := progress.place
  substitutions := progress.substitutions + 1
  inside := by
    simp only [List.length_append, length_done]
    omega

/-- The place moves on by one character. -/
def advance (progress : Progress) (short : progress.place < progress.line.length) : Progress where
  line := progress.line
  place := progress.place + 1
  substitutions := progress.substitutions
  inside := short

/-- What is done next. -/
inductive Step (replacements : List Replacement) : Progress → Progress → Prop where
  /-- A token stands at the place, and a substitution is left. -/
  | exchange {progress : Progress} {replacement : Replacement}
    (first : opening? replacements progress.rest = some replacement)
    (allowed : progress.substitutions < limit) :
    Step replacements progress (progress.exchange replacement)
  /-- No token stands at the place. -/
  | advance {progress : Progress} (absent : opening? replacements progress.rest = none)
    (short : progress.place < progress.line.length) :
    Step replacements progress (progress.advance short)

/-- Steps that follow one another. -/
abbrev Run (replacements : List Replacement) : Progress → Progress → Prop :=
  Relation.ReflTransGen (Step replacements)

/-- The whole line is done. -/
structure Finished (replacements : List Replacement) (progress : Progress) : Prop where
  /-- No token stands at the place. -/
  absent : opening? replacements progress.rest = none
  /-- The place is the end of the line. -/
  atEnd : progress.place = progress.line.length

/-- A token stands at the place, and no substitution is left for it. -/
structure Refused (replacements : List Replacement) (progress : Progress) : Prop where
  /-- A token stands at the place. -/
  found : opening? replacements progress.rest ≠ none
  /-- All substitutions have been made. -/
  spent : limit ≤ progress.substitutions

variable {progress earlier later : Progress}

/-- A run comes to an end only where the line is done or refused. -/
theorem exists_step_or_ended (replacements : List Replacement) (progress : Progress) :
    (∃ next, Step replacements progress next) ∨
      progress.Finished replacements ∨ progress.Refused replacements := by
  have within := progress.inside
  cases found : opening? replacements progress.rest with
  | none =>
    by_cases short : progress.place < progress.line.length
    · exact .inl ⟨_, .advance found short⟩
    · exact .inr (.inl ⟨found, by omega⟩)
  | some replacement =>
    by_cases allowed : progress.substitutions < limit
    · exact .inl ⟨_, .exchange found allowed⟩
    · exact .inr (.inr ⟨by simp [found], Nat.le_of_not_lt allowed⟩)

/-- A line that is done or refused takes no step. -/
theorem not_step_of_ended
    (ended : progress.Finished replacements ∨ progress.Refused replacements) {next : Progress} :
    ¬ Step replacements progress next := by
  intro step
  rcases ended with ⟨absent, atEnd⟩ | ⟨found, spent⟩
  · cases step with
    | exchange first allowed => cases absent.symm.trans first
    | advance none_ short => exact Nat.ne_of_lt short atEnd
  · cases step with
    | exchange first allowed => exact Nat.not_lt.mpr spent allowed
    | advance none_ short => exact found none_

/-- There is one next step at most. -/
theorem rightUnique_step (replacements : List Replacement) :
    Relator.RightUnique (Step replacements) := by
  intro progress one other first second
  cases first with
  | exchange found _ =>
    cases second with
    | exchange again _ => rw [Option.some.inj (found.symm.trans again)]
    | advance absent _ => cases found.symm.trans absent
  | advance absent _ =>
    cases second with
    | exchange found _ => cases found.symm.trans absent
    | advance _ _ => rfl

/-- Every step leaves fewer substitutions, or as many and fewer characters behind the place. -/
theorem wellFounded_step (replacements : List Replacement) :
    WellFounded fun later earlier => Step replacements earlier later := by
  let left (progress : Progress) : Nat × Nat :=
    (limit - progress.substitutions, progress.line.length - progress.place)
  have order : WellFounded (Prod.Lex (· < ·) (· < ·) : Nat × Nat → Nat × Nat → Prop) :=
    WellFounded.prod_lex Nat.lt_wfRel.wf Nat.lt_wfRel.wf
  refine Subrelation.wf ?_ (InvImage.wf left order)
  intro later earlier step
  cases step with
  -- The line may become longer here, so that the characters behind the place come second.
  | exchange first allowed => exact .left _ _ (by simp only [exchange]; omega)
  | advance absent short => exact .right _ (by simp only [advance]; omega)

/-- Every run can be carried on to its end. -/
theorem exists_ended (replacements : List Replacement) (progress : Progress) :
    ∃ last, Run replacements progress last ∧
      (last.Finished replacements ∨ last.Refused replacements) := by
  induction progress using (wellFounded_step replacements).induction with
  | _ progress ih =>
    rcases exists_step_or_ended replacements progress with ⟨next, step⟩ | ended
    · obtain ⟨last, onward, ended⟩ := ih next step
      exact ⟨last, .head step onward, ended⟩
    · exact ⟨progress, .refl, ended⟩

/-- All runs from one place go on to the same end. -/
theorem run_of_ended {last : Progress} (whole : Run replacements earlier last)
    (ended : last.Finished replacements ∨ last.Refused replacements)
    (part : Run replacements earlier progress) : Run replacements progress last := by
  rcases whole.total_of_right_unique (rightUnique_step replacements) part with beyond | onward
  · rcases beyond.cases_head with rfl | ⟨next, step, _⟩
    · exact .refl
    · exact absurd step (not_step_of_ended ended)
  · exact onward

/-- No step makes more substitutions than are allowed. -/
theorem Run.substitutions_le (run : Run replacements earlier later)
    (least : earlier.substitutions ≤ limit) : later.substitutions ≤ limit := by
  induction run with
  | refl => exact least
  | tail _ step ih =>
    cases step with
    | exchange first allowed => exact allowed
    | advance absent short => exact ih

/-- What lies before the place when a token is exchanged is kept. -/
theorem done_exchange (replacement : Replacement) (progress : Progress) :
    (progress.exchange replacement).done = progress.done := by
  calc
    (progress.exchange replacement).done
    _ = (progress.done ++ (replacement.text.toList ++
        progress.line.drop (progress.place + replacement.token.toList.length))).take
          progress.done.length := by
      rw [length_done, ← List.append_assoc]
      rfl
    _ = progress.done := List.take_left

/-- What stands from the place on when a token is exchanged. -/
theorem rest_exchange {replacement : Replacement} {after : List Char}
    (split : progress.rest = replacement.token.toList ++ after) :
    (progress.exchange replacement).rest = replacement.text.toList ++ after := by
  have behind : progress.line.drop (progress.place + replacement.token.toList.length) = after := by
    rw [← List.drop_drop]
    exact (congrArg (List.drop _) split).trans List.drop_left
  calc
    (progress.exchange replacement).rest
    _ = (progress.done ++ (replacement.text.toList ++ after)).drop progress.done.length := by
      rw [length_done, ← List.append_assoc, ← behind]
      rfl
    _ = replacement.text.toList ++ after := List.drop_left

/-- The place moves over the first character behind it. -/
theorem exists_of_advance (short : progress.place < progress.line.length) :
    ∃ first, progress.rest = first :: (progress.advance short).rest ∧
      (progress.advance short).done = progress.done ++ [first] :=
  ⟨progress.line[progress.place], List.drop_eq_getElem_cons short,
    (List.take_concat_get' _ _ short).symm⟩

/-- The line that a run is to end with, if it is not refused. -/
def outcome? (replacements : List Replacement) (progress : Progress) : Option (List Char) :=
  (expand? replacements (limit - progress.substitutions) progress.rest).map (progress.done ++ ·)

/-- A step does not change what the line becomes. -/
theorem Step.outcome?_eq (step : Step replacements earlier later) :
    later.outcome? replacements = earlier.outcome? replacements := by
  cases step with
  | exchange first allowed =>
    obtain ⟨after, split, made⟩ := Checked.exists_of_find? first
    obtain ⟨left, count⟩ : ∃ left, limit - earlier.substitutions = left + 1 :=
      ⟨limit - earlier.substitutions - 1, by omega⟩
    have fewer : limit - (earlier.substitutions + 1) = left := by omega
    unfold outcome?
    rw [rest_exchange split, done_exchange, count, expand?_succ_of_some made]
    exact congrArg (fun left => (expand? replacements left _).map _) fewer
  | advance absent short =>
    obtain ⟨first, whole, onward⟩ := exists_of_advance short
    have none_ := Checked.substitute?_of_find?_none absent
    rw [whole] at none_
    unfold outcome?
    rw [whole, expand?_cons_of_none none_, onward, Option.map_map]
    refine congrArg (Option.map · _) (funext fun result => ?_)
    exact List.append_assoc _ _ _

/-- A run does not change what the line becomes. -/
theorem Run.outcome?_eq (run : Run replacements earlier later) :
    later.outcome? replacements = earlier.outcome? replacements := by
  induction run with
  | refl => rfl
  | tail _ step ih => exact step.outcome?_eq.trans ih

/-- A line that is done is what it becomes. -/
theorem Finished.outcome?_eq (finished : progress.Finished replacements) :
    progress.outcome? replacements = some progress.line := by
  have nothing : progress.rest = [] := by simp [rest, finished.atEnd]
  have none_ := Checked.substitute?_of_find?_none finished.absent
  have all : progress.done = progress.line := by simp [done, finished.atEnd]
  rw [nothing] at none_
  rw [outcome?, nothing, expand?_nil_of_none none_, Option.map_some, List.append_nil, all]

/-- A line that is refused becomes nothing. -/
theorem Refused.outcome?_eq (refused : progress.Refused replacements) :
    progress.outcome? replacements = none := by
  obtain ⟨replacement, found⟩ := Option.ne_none_iff_exists'.mp refused.found
  obtain ⟨after, _, made⟩ := Checked.exists_of_find? found
  have nothing : limit - progress.substitutions = 0 := Nat.sub_eq_zero_of_le refused.spent
  rw [outcome?, nothing, expand?_zero_of_some made, Option.map_none]

/-- A step neither moves the place back nor changes what lies before it. -/
theorem Step.keeps (step : Step replacements earlier later) :
    earlier.place ≤ later.place ∧
      later.line.take earlier.place = earlier.line.take earlier.place := by
  cases step with
  | exchange first allowed => exact ⟨Nat.le_refl _, done_exchange _ _⟩
  | advance absent short => exact ⟨Nat.le_succ _, rfl⟩

/-- A run neither moves the place back nor changes what has once lain before it. -/
theorem Run.keeps (run : Run replacements earlier later) :
    earlier.place ≤ later.place ∧
      later.line.take earlier.place = earlier.line.take earlier.place := by
  induction run with
  | refl => exact ⟨Nat.le_refl _, rfl⟩
  | tail _ step ih =>
    rename_i before after _
    obtain ⟨le, same⟩ := ih
    obtain ⟨onward, kept⟩ := step.keeps
    refine ⟨le.trans onward, ?_⟩
    calc
      after.line.take earlier.place
      _ = (after.line.take before.place).take earlier.place := by
        rw [List.take_take, Nat.min_eq_left le]
      _ = (before.line.take before.place).take earlier.place := by rw [kept]
      _ = before.line.take earlier.place := by rw [List.take_take, Nat.min_eq_left le]
      _ = earlier.line.take earlier.place := same

end Progress

end Replacement

namespace Source

open Replacement (Progress)

/-- Reading a line without substitutions so far is reading it from its start. -/
theorem expand_of_outcome? (source : Source) (number : Nat) {line : List Char}
    (nonempty : line ≠ []) :
    source.expand number (some line) =
      match (Progress.start line).outcome? source.replacements with
      | some expanded => .ok expanded
      | none => .error (.line ⟨number, .endlessReplacement⟩) := by
  obtain ⟨first, rest, rfl⟩ := List.exists_cons_of_ne_nil nonempty
  have whole : (Progress.start (first :: rest)).outcome? source.replacements =
      Replacement.applyAll? source.replacements (first :: rest) := by
    change (Replacement.applyAll? source.replacements (first :: rest)).map ([] ++ ·) =
      Replacement.applyAll? source.replacements (first :: rest)
    exact congrFun Option.map_id _
  rw [whole]
  rfl

/-- Replacements in a line that is not empty are made step by step from its front, and no run of
steps goes on for ever. All runs go on to the same end. Either the whole line is done then, with 999
substitutions at most, and is what is read; or a token stands at the place after 999 substitutions,
and the line is refused for replacements without end. With an empty token every line is refused. No
run changes what lies before a place that it has come to. -/
theorem expand_of_runs (source : Source) (number : Nat) {line : List Char}
    (nonempty : line ≠ []) :
    Acc (fun later earlier => Progress.Step source.replacements earlier later)
      (Progress.start line) ∧
    (∃ last, (∀ progress, Progress.Run source.replacements (Progress.start line) progress →
        Progress.Run source.replacements progress last) ∧
      (last.Finished source.replacements ∧ last.substitutions ≤ 999 ∧
          source.expand number (some line) = .ok last.line ∨
        last.Refused source.replacements ∧ last.substitutions = 999 ∧
          source.expand number (some line) = .error (.line ⟨number, .endlessReplacement⟩))) ∧
    ((∃ replacement ∈ source.replacements, replacement.token = "") →
      source.expand number (some line) = .error (.line ⟨number, .endlessReplacement⟩)) ∧
    ∀ earlier later, Progress.Run source.replacements (Progress.start line) earlier →
      Progress.Run source.replacements earlier later →
        earlier.place ≤ later.place ∧
          later.line.take earlier.place = earlier.line.take earlier.place := by
  obtain ⟨last, whole, ended⟩ := Progress.exists_ended source.replacements (Progress.start line)
  have bound : last.substitutions ≤ 999 := whole.substitutions_le (Nat.zero_le _)
  have refused (refusal : last.Refused source.replacements) :
      source.expand number (some line) = .error (.line ⟨number, .endlessReplacement⟩) := by
    rw [expand_of_outcome? source number nonempty, ← whole.outcome?_eq, refusal.outcome?_eq]
  refine ⟨(Progress.wellFounded_step _).apply _,
    ⟨last, fun _ part => Progress.run_of_ended whole ended part, ?_⟩, fun empty => ?_,
    fun _ _ _ onward => onward.keeps⟩
  · rcases ended with finished | refusal
    · refine .inl ⟨finished, bound, ?_⟩
      rw [expand_of_outcome? source number nonempty, ← whole.outcome?_eq, finished.outcome?_eq]
    · exact .inr ⟨refusal, Nat.le_antisymm bound refusal.spent, refused refusal⟩
  · have stands := Replacement.opening?_ne_none_of_empty empty last.rest
    exact refused (ended.resolve_left fun finished => stands finished.absent)

/-- A replacement that doubles a character, and one that removes the characters that come of it. -/
def growingSource : Source :=
  ⟨.text "", [⟨"b", ""⟩, ⟨"a", "bb"⟩]⟩

/-- The line grows before it shrinks, and is done after a few substitutions. -/
theorem expand_of_runs_growing :
    "ca\n".toList ≠ [] ∧
    Acc (fun later earlier => Progress.Step growingSource.replacements earlier later)
      (Progress.start "ca\n".toList) ∧
    ∃ last, Progress.Run growingSource.replacements (Progress.start "ca\n".toList) last ∧
      last.Finished growingSource.replacements ∧ last.line = "c\n".toList ∧
        last.substitutions ≤ 999 := by
  have nonempty : "ca\n".toList ≠ [] := by decide
  have read : growingSource.expand 1 (some "ca\n".toList) = .ok "c\n".toList := by decide +kernel
  obtain ⟨ends, ⟨last, onward, outcome⟩, _⟩ := expand_of_runs growingSource 1 nonempty
  refine ⟨nonempty, ends, last, onward _ .refl, ?_⟩
  rcases outcome with ⟨finished, bound, result⟩ | ⟨_, _, result⟩
  · exact ⟨finished, Except.ok.inj (result.symm.trans read), bound⟩
  · cases result.symm.trans read

end Source

end GpuScript

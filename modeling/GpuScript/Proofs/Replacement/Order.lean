import GpuScript.Proofs.Replacement.Run

/-!
# The order of replacements

Where a token stands, the first replacement in the list that has it is made. If no token is a prefix
of another one, at most one token stands at a place, so the order of the list says nothing: a line
is read alike with the replacements in any order, whatever they feed and however many substitutions
they take (`Source.expand_of_perm`). Where no token stands at all, nothing is changed.
-/

namespace GpuScript

namespace Replacement

/-- No token is a prefix of another one. In particular, no two replacements have the same token. -/
def PrefixFree (replacements : List Replacement) : Prop :=
  replacements.Pairwise fun one other =>
    ¬ one.token.toList <+: other.token.toList ∧ ¬ other.token.toList <+: one.token.toList

instance (replacements : List Replacement) : Decidable (PrefixFree replacements) :=
  inferInstanceAs (Decidable (List.Pairwise _ _))

variable {replacements others : List Replacement}

/-- The order of a list takes no part in whether a token is a prefix of another one. -/
theorem PrefixFree.perm (free : PrefixFree replacements) (same : others.Perm replacements) :
    PrefixFree others :=
  List.Pairwise.perm free same.symm And.symm

/-- The substitutions that are possible at the front of a text: one at most. -/
theorem PrefixFree.pairwise_filterMap (free : PrefixFree replacements) (text : List Char) :
    (replacements.filterMap fun replacement =>
      (replacement.token.toList.isPrefixOf? text).map fun rest =>
        replacement.text.toList ++ rest).Pairwise fun _ _ => False := by
  refine List.pairwise_filterMap.mpr (free.imp fun {one other} apart => ?_)
  intro replaced made again remade
  obtain ⟨rest, opens, _⟩ := Option.map_eq_some_iff.mp made
  obtain ⟨more, opens_too, _⟩ := Option.map_eq_some_iff.mp remade
  have first : one.token.toList <+: text := ⟨rest, List.isPrefixOf?_eq_some_iff_append_eq.mp opens⟩
  have second : other.token.toList <+: text :=
    ⟨more, List.isPrefixOf?_eq_some_iff_append_eq.mp opens_too⟩
  -- Of two prefixes of one text, the shorter one is a prefix of the longer one.
  exact (List.prefix_or_prefix_of_prefix first second).elim apart.1 apart.2

/-- At the front of a text the same substitution is made in any order of the replacements. -/
theorem substitute?_of_perm (free : PrefixFree replacements) (same : others.Perm replacements)
    (text : List Char) : substitute? others text = substitute? replacements text := by
  have possible := (same.filterMap _).eq_of_pairwise (fun _ _ _ _ impossible => impossible.elim)
    ((free.perm same).pairwise_filterMap text) (free.pairwise_filterMap text)
  rw [substitute?, substitute?, ← List.head?_filterMap, ← List.head?_filterMap, possible]

/-- Lists that make the same substitutions walk over a text alike. -/
theorem walk?_congr (agree : ∀ text, substitute? others text = substitute? replacements text)
    (resume : List Char → Option (List Char)) (text : List Char) :
    walk? others resume text = walk? replacements resume text := by
  induction text with
  | nil => rw [walk?, walk?, agree]
  | cons first rest ih => rw [walk?, walk?, agree, ih]

/-- Lists that make the same substitutions make as many of them. -/
theorem expand?_congr (agree : ∀ text, substitute? others text = substitute? replacements text)
    (allowed : Nat) : expand? others allowed = expand? replacements allowed := by
  induction allowed with
  | zero => exact funext fun text => walk?_congr agree _ text
  | succ allowed ih =>
    funext text
    rw [expand?, expand?, ih]
    exact walk?_congr agree _ text

/-- A line becomes the same in any order of the replacements. -/
theorem applyAll?_of_perm (free : PrefixFree replacements) (same : others.Perm replacements)
    (line : List Char) : applyAll? others line = applyAll? replacements line := by
  cases line with
  | nil => rfl
  | cons first rest =>
    rw [applyAll?, applyAll?, expand?_congr (substitute?_of_perm free same)]

/-- Nothing is substituted at the front of a text in which no token occurs. -/
theorem substitute?_of_absent {text : List Char}
    (absent : ∀ replacement ∈ replacements, ¬ replacement.token.toList <:+: text) :
    substitute? replacements text = none := by
  refine Checked.substitute?_of_find?_none (List.find?_eq_none.mpr ?_)
  intro replacement listed opens
  exact absent replacement listed (List.isPrefixOf_iff_prefix.mp opens).isInfix

/-- A text in which no token occurs stays as it is. -/
theorem expand?_of_absent (allowed : Nat) {text : List Char}
    (absent : ∀ replacement ∈ replacements, ¬ replacement.token.toList <:+: text) :
    expand? replacements allowed text = some text := by
  have here := substitute?_of_absent absent
  induction text with
  | nil => exact expand?_nil_of_none here allowed
  | cons first rest ih =>
    have behind : ∀ replacement ∈ replacements, ¬ replacement.token.toList <:+: rest :=
      fun replacement listed inside =>
        absent replacement listed (inside.trans (List.suffix_cons first rest).isInfix)
    rw [expand?_cons_of_none here, ih behind (substitute?_of_absent behind), Option.map_some]

/-- A line in which no token occurs stays as it is. -/
theorem applyAll?_of_absent {line : List Char}
    (absent : ∀ replacement ∈ replacements, ¬ replacement.token.toList <:+: line) :
    applyAll? replacements line = some line := by
  cases line with
  | nil => rfl
  | cons first rest => exact expand?_of_absent limit absent

end Replacement

namespace Source

open Replacement (PrefixFree)

/-- The source with other replacements. -/
def withReplacements (source : Source) (replacements : List Replacement) : Source :=
  { source with replacements := replacements }

/-- Reading a line, with its text or its error, is the same in any order of the replacements. -/
theorem expand_withReplacements {source : Source} (free : PrefixFree source.replacements)
    {others : List Replacement} (same : others.Perm source.replacements) (number : Nat)
    (line : Option (List Char)) :
    (source.withReplacements others).expand number line = source.expand number line := by
  cases line with
  | none => rfl
  | some line =>
    rw [expand, expand, withReplacements, Replacement.applyAll?_of_perm free same]

/-- If no token is a prefix of another one, a line is read alike with the replacements in any order:
with the same text, or with the same error. And in any case a line in which no token occurs is read
as it stands. -/
theorem expand_of_perm (source : Source) :
    (PrefixFree source.replacements → ∀ others, others.Perm source.replacements →
      ∀ number line,
        (source.withReplacements others).expand number line = source.expand number line) ∧
    ∀ number line, (∀ replacement ∈ source.replacements, ¬ replacement.token.toList <:+: line) →
      source.expand number (some line) = .ok line := by
  constructor
  · intro free others same number line
    exact expand_withReplacements free same number line
  · intro number line absent
    rw [expand, Replacement.applyAll?_of_absent absent]

/-- Replacements that feed each other and grow, in an order that starts with the last to be made. -/
def chainedSource : Source :=
  ⟨.text "", [⟨"c", ""⟩, ⟨"a", "bb"⟩, ⟨"b", "xc"⟩]⟩

/-- The chain is followed in the opposite order of the list as well, and a line without its tokens
stays. -/
theorem expand_of_perm_chained :
    PrefixFree chainedSource.replacements ∧
    chainedSource.replacements.reverse.Perm chainedSource.replacements ∧
    (chainedSource.withReplacements chainedSource.replacements.reverse).expand 1
      (some "a b\n".toList) = .ok "xx x\n".toList ∧
    (∀ replacement ∈ chainedSource.replacements,
      ¬ replacement.token.toList <:+: "xyz\n".toList) ∧
    chainedSource.expand 2 (some "xyz\n".toList) = .ok "xyz\n".toList := by
  have free : PrefixFree chainedSource.replacements := by decide +kernel
  have same := chainedSource.replacements.reverse_perm
  have absent : ∀ replacement ∈ chainedSource.replacements,
      ¬ replacement.token.toList <:+: "xyz\n".toList := by decide +kernel
  have read : chainedSource.expand 1 (some "a b\n".toList) = .ok "xx x\n".toList := by
    decide +kernel
  obtain ⟨reordered, kept⟩ := expand_of_perm chainedSource
  exact ⟨free, same, (reordered free _ same 1 _).trans read, absent, kept 2 _ absent⟩

end Source

end GpuScript

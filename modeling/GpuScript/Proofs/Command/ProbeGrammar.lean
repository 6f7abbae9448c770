import GpuScript.Proofs.Command.Tuple
import GpuScript.Proofs.Operation.ProbeReadsBack

/-!
# The grammar of a probe of the framebuffer

After `probe` stand a word for the extent, unless a single pixel is probed, a word for the format, a
tuple for the position, unless the whole framebuffer is probed, and a tuple for the colour
(`ProbeGrammar`).

Every reader takes what its part of the grammar describes, and it finds such a part whatever stands
behind it; only a tuple without brackets must not have a closing bracket behind it. No tuple starts
with one, so the readers one behind another accept exactly what the grammar describes
(`probeFramebuffer_eq_ok`).
-/

namespace GpuScript

namespace Command

variable {tokens rest : List Token}

/-- The number of coordinates of an extent. -/
def Extent.arity : Extent → Nat
  | window => 0
  | pixel => 2
  | rect => 4

/-- Tokens are the position of an extent: a tuple of its coordinates, and nothing if it has none. -/
def Extent.IsPosition (extent : Extent) (position : List Single) (tokens : List Token) : Prop :=
  position.length = extent.arity ∧
    match extent with
    | window => tokens = []
    | pixel | rect => IsTuple position tokens

/-- The tokens after `probe` for an extent and a format with or without alpha, with the numbers of
the position and of the colour. -/
inductive ProbeGrammar (extent : Extent) (withAlpha : Bool) (position color : List Single) :
    List Token → Prop
  | intro {modifiers place shade : List Token} {format : Token}
    (modified : modifiers.map Token.word? = extent.words.map some)
    (formatted : format.word? = some (formatWord withAlpha))
    (placed : extent.IsPosition position place)
    (components : color.length = if withAlpha then 4 else 3)
    (shaded : IsTuple color shade) :
    ProbeGrammar extent withAlpha position color (modifiers ++ format :: (place ++ shade))

/-! ### The parts of a probe -/

/-- A word of a probe is read from a word. -/
theorem probeWord_eq_ok {text : String} : probeWord tokens = .ok (text, rest) ↔
    ∃ token, token.word? = some text ∧ tokens = token :: rest := by
  cases tokens with
  | nil => simp [probeWord]
  | cons token others =>
    rw [probeWord]
    cases named : token.word? <;> simp [named]

/-- The extent is read with the word for the format, and no such word is the one of an extent. -/
theorem probeExtent_eq_ok {extent : Extent} {withAlpha : Bool} :
    probeExtent tokens = .ok (extent, formatWord withAlpha, rest) ↔
      ∃ modifiers format, modifiers.map Token.word? = extent.words.map some ∧
        format.word? = some (formatWord withAlpha) ∧ tokens = modifiers ++ format :: rest := by
  constructor
  · intro accepted
    obtain ⟨⟨text, between⟩, own, chosen⟩ := bind_eq_ok.mp accepted
    obtain ⟨first, named, rfl⟩ := probeWord_eq_ok.mp own
    dsimp only at chosen
    split at chosen
    · obtain ⟨⟨text, rest'⟩, later, same⟩ := bind_eq_ok.mp chosen
      cases same
      obtain ⟨format, formatted, rfl⟩ := probeWord_eq_ok.mp later
      exact ⟨[first], format, by simp [named, Extent.words], formatted, rfl⟩
    · obtain ⟨⟨text, rest'⟩, later, same⟩ := bind_eq_ok.mp chosen
      cases same
      obtain ⟨format, formatted, rfl⟩ := probeWord_eq_ok.mp later
      exact ⟨[first], format, by simp [named, Extent.words], formatted, rfl⟩
    · cases chosen
      exact ⟨[], first, rfl, named, rfl⟩
  · rintro ⟨modifiers, format, modified, formatted, rfl⟩
    have last : probeWord (format :: rest) = .ok (formatWord withAlpha, rest) :=
      probeWord_eq_ok.mpr ⟨format, formatted, rfl⟩
    cases extent with
    | pixel =>
      obtain rfl := List.map_eq_nil_iff.mp modified
      refine bind_eq_ok.mpr ⟨_, last, ?_⟩
      cases withAlpha <;> rfl
    | window =>
      obtain ⟨first, rfl, named⟩ := List.map_eq_singleton_iff.mp modified
      have own : probeWord (first :: format :: rest) = .ok ("all", format :: rest) :=
        probeWord_eq_ok.mpr ⟨first, named, rfl⟩
      exact bind_eq_ok.mpr ⟨_, own, bind_eq_ok.mpr ⟨_, last, rfl⟩⟩
    | rect =>
      obtain ⟨first, rfl, named⟩ := List.map_eq_singleton_iff.mp modified
      have own : probeWord (first :: format :: rest) = .ok ("rect", format :: rest) :=
        probeWord_eq_ok.mpr ⟨first, named, rfl⟩
      exact bind_eq_ok.mpr ⟨_, own, bind_eq_ok.mpr ⟨_, last, rfl⟩⟩

/-- A format is read from its word. -/
theorem probeFormat_eq_ok {format : String} {withAlpha : Bool} :
    probeFormat format = .ok withAlpha ↔ format = formatWord withAlpha := by
  constructor
  · intro accepted
    unfold probeFormat at accepted
    split at accepted
    · cases accepted
      rfl
    · cases accepted
      rfl
    · cases accepted
  · rintro rfl
    exact probeFormat_formatWord withAlpha

/-- A region has as many coordinates as its extent. -/
theorem length_coordinates (region : Region) :
    (coordinates region).length = (Extent.ofRegion region).arity := by
  cases region <;> rfl

/-- A colour has three numbers, and a fourth for an alpha. -/
theorem length_channels (color : ProbeColor) :
    (channels color).length = if hasAlpha color then 4 else 3 := by
  cases color <;> rfl

/-- A region that was read has the given extent, and its position was read. -/
theorem isPosition_of_probeRegion {extent : Extent} {region : Region}
    (accepted : probeRegion extent tokens = .ok (region, rest)) :
    Extent.ofRegion region = extent ∧
      ∃ place, extent.IsPosition (coordinates region) place ∧ tokens = place ++ rest := by
  cases extent with
  | window =>
    cases accepted
    exact ⟨rfl, [], ⟨rfl, rfl⟩, rfl⟩
  | pixel =>
    obtain ⟨⟨⟨x, y⟩, rest'⟩, read, accepted⟩ := bind_eq_ok.mp accepted
    cases accepted
    obtain ⟨place, isTuple, split⟩ := isTuple_of_bracketed takes_pair read
    exact ⟨rfl, place, ⟨rfl, isTuple⟩, split⟩
  | rect =>
    obtain ⟨⟨⟨x, y, width, height⟩, rest'⟩, read, accepted⟩ := bind_eq_ok.mp accepted
    cases accepted
    obtain ⟨place, isTuple, split⟩ := isTuple_of_bracketed takes_quadruple read
    exact ⟨rfl, place, ⟨rfl, isTuple⟩, split⟩

/-- A region is read from its position if no closing bracket follows. -/
theorem probeRegion_of_isPosition {region : Region} {place : List Token}
    (placed : (Extent.ofRegion region).IsPosition (coordinates region) place)
    (follows : ∀ token ∈ rest.head?, token.kind ≠ .closeBracket) :
    probeRegion (.ofRegion region) (place ++ rest) = .ok (region, rest) := by
  obtain ⟨-, placed⟩ := placed
  cases region with
  | window =>
    obtain rfl : place = [] := placed
    rfl
  | pixel x y =>
    have read := bracketed_of_isTuple takes_pair (x, y) (List.cons_ne_nil _ _) placed follows
    exact bind_eq_ok.mpr ⟨_, read, rfl⟩
  | rect x y width height =>
    have read := bracketed_of_isTuple takes_quadruple (x, y, width, height)
      (List.cons_ne_nil _ _) placed follows
    exact bind_eq_ok.mpr ⟨_, read, rfl⟩

/-- A colour that was read has the given format, and its tuple was read. -/
theorem isTuple_of_probeColor {withAlpha : Bool} {color : ProbeColor}
    (accepted : probeColor withAlpha tokens = .ok (color, rest)) :
    hasAlpha color = withAlpha ∧
      ∃ shade, IsTuple (channels color) shade ∧ tokens = shade ++ rest := by
  cases withAlpha with
  | true =>
    obtain ⟨⟨⟨r, g, b, a⟩, rest'⟩, read, accepted⟩ := bind_eq_ok.mp accepted
    cases accepted
    exact ⟨rfl, isTuple_of_bracketed takes_quadruple read⟩
  | false =>
    obtain ⟨⟨⟨r, g, b⟩, rest'⟩, read, accepted⟩ := bind_eq_ok.mp accepted
    cases accepted
    exact ⟨rfl, isTuple_of_bracketed takes_triple read⟩

/-- A colour is read from its tuple if no closing bracket follows. -/
theorem probeColor_of_isTuple {color : ProbeColor} {shade : List Token}
    (shaded : IsTuple (channels color) shade)
    (follows : ∀ token ∈ rest.head?, token.kind ≠ .closeBracket) :
    probeColor (hasAlpha color) (shade ++ rest) = .ok (color, rest) := by
  cases color with
  | rgb r g b =>
    have read := bracketed_of_isTuple takes_triple (r, g, b) (List.cons_ne_nil _ _) shaded follows
    exact bind_eq_ok.mpr ⟨_, read, rfl⟩
  | rgba r g b a =>
    have read := bracketed_of_isTuple takes_quadruple (r, g, b, a)
      (List.cons_ne_nil _ _) shaded follows
    exact bind_eq_ok.mpr ⟨_, read, rfl⟩

/-- A line is at its end without tokens. -/
theorem finish_eq_ok {cause : Error} : finish cause tokens = .ok () ↔ tokens = [] := by
  cases tokens <;> simp [finish]

/-- A probe of the framebuffer is read from the tokens of its grammar, and the end of the line is
looked for behind them, if no closing bracket follows. -/
theorem probeFramebuffer_append {probe : Probe}
    (grammar : ProbeGrammar (.ofRegion probe.region) (hasAlpha probe.color)
      (coordinates probe.region) (channels probe.color) tokens)
    (follows : ∀ token ∈ rest.head?, token.kind ≠ .closeBracket) :
    probeFramebuffer probe.relative (tokens ++ rest) =
      (finish (.extraOperand .probe) rest).map fun _ => .probe probe := by
  obtain @⟨modifiers, place, shade, format, modified, formatted, placed, -, shaded⟩ := grammar
  have opening : probeExtent (modifiers ++ format :: (place ++ shade) ++ rest) =
      .ok (.ofRegion probe.region, formatWord (hasAlpha probe.color), place ++ (shade ++ rest)) :=
    probeExtent_eq_ok.mpr ⟨modifiers, format, modified, formatted, by simp⟩
  have unclosed : ∀ token ∈ (shade ++ rest).head?, token.kind ≠ .closeBracket := by
    intro token first
    rw [List.head?_append] at first
    rcases Option.or_eq_some_iff.mp first with own | ⟨-, behind⟩
    · exact shaded.head_ne token own
    · exact follows token behind
  simp only [probeFramebuffer, opening, ok_bind, probeFormat_formatWord,
    probeRegion_of_isPosition placed unclosed, probeColor_of_isTuple shaded follows]
  cases finish (.extraOperand .probe) rest <;> rfl

/-- A probe of the framebuffer is read from exactly the tokens of its grammar. -/
theorem probeFramebuffer_eq_ok {relative : Bool} {operation : Operation} :
    probeFramebuffer relative tokens = .ok operation ↔
      ∃ probe, operation = .probe probe ∧ probe.relative = relative ∧
        ProbeGrammar (.ofRegion probe.region) (hasAlpha probe.color) (coordinates probe.region)
          (channels probe.color) tokens := by
  constructor
  · intro accepted
    obtain ⟨⟨extent, text, _⟩, opening, accepted⟩ := bind_eq_ok.mp accepted
    obtain ⟨withAlpha, formatted, accepted⟩ := bind_eq_ok.mp accepted
    obtain ⟨⟨region, _⟩, position, accepted⟩ := bind_eq_ok.mp accepted
    obtain ⟨⟨color, _⟩, shade, accepted⟩ := bind_eq_ok.mp accepted
    obtain ⟨_, ended, accepted⟩ := bind_eq_ok.mp accepted
    cases accepted
    obtain rfl := probeFormat_eq_ok.mp formatted
    obtain ⟨modifiers, format, modified, formatted, rfl⟩ := probeExtent_eq_ok.mp opening
    obtain ⟨rfl, place, placed, rfl⟩ := isPosition_of_probeRegion position
    obtain ⟨rfl, shade, shaded, rfl⟩ := isTuple_of_probeColor shade
    obtain rfl := finish_eq_ok.mp ended
    refine ⟨⟨relative, region, color⟩, rfl, rfl, ?_⟩
    rw [List.append_nil]
    exact .intro modified formatted placed (length_channels color) shaded
  · rintro ⟨probe, rfl, rfl, grammar⟩
    have whole : probeFramebuffer probe.relative (tokens ++ []) = .ok (.probe probe) :=
      probeFramebuffer_append grammar nofun
    rwa [List.append_nil] at whole

/-! ### What a probe says -/

/-- Numbers, and the default values for the places behind the last of them. -/
def padded (numbers defaults : List Single) : List Single :=
  numbers ++ defaults.drop numbers.length

/-- A probe has flags and numbers as they are written. A region that is no rectangle is one wide and
one high, the whole framebuffer is at the origin, and an alpha that is not written is zero. -/
structure ProbeContents (probe : Probe) (relative : Bool) (extent : Extent) (withAlpha : Bool)
    (position color : List Single) : Prop where
  /-- The flag for relative coordinates. -/
  relative : probe.relative = relative
  /-- The flags for the whole framebuffer and for a rectangle. -/
  extent : Extent.ofRegion probe.region = extent
  /-- The flag for an alpha. -/
  withAlpha : hasAlpha probe.color = withAlpha
  /-- The corner, the width and the height. -/
  bounds : [probe.region.bounds.1, probe.region.bounds.2.1, probe.region.bounds.2.2.1,
      probe.region.bounds.2.2.2] =
    padded position [Binary.zero, Binary.zero, Binary.ofInt 1, Binary.ofInt 1]
  /-- The colour. -/
  components : probe.color.components =
    padded color [Binary.zero, Binary.zero, Binary.zero, Binary.zero]

/-- Equally many numbers with the same default values are the same numbers. -/
theorem padded_inj {first second defaults : List Single} (same : first.length = second.length) :
    padded first defaults = padded second defaults ↔ first = second := by
  constructor
  · intro equal
    exact List.append_inj_left equal same
  · rintro rfl
    rfl

/-- A probe says what is written if its coordinates and its channels are the numbers written. -/
theorem probeContents_iff {probe : Probe} {relative withAlpha : Bool} {extent : Extent}
    {position color : List Single} (placed : position.length = extent.arity)
    (components : color.length = if withAlpha then 4 else 3) :
    ProbeContents probe relative extent withAlpha position color ↔
      probe.relative = relative ∧ Extent.ofRegion probe.region = extent ∧
        hasAlpha probe.color = withAlpha ∧ coordinates probe.region = position ∧
        channels probe.color = color := by
  have corner : [probe.region.bounds.1, probe.region.bounds.2.1, probe.region.bounds.2.2.1,
      probe.region.bounds.2.2.2] = padded (coordinates probe.region)
        [Binary.zero, Binary.zero, Binary.ofInt 1, Binary.ofInt 1] := by
    cases probe.region <;> rfl
  have shade : probe.color.components =
      padded (channels probe.color) [Binary.zero, Binary.zero, Binary.zero, Binary.zero] := by
    cases probe.color <;> rfl
  constructor
  · rintro ⟨rfl, rfl, rfl, bounds, colored⟩
    refine ⟨rfl, rfl, rfl, ?_, ?_⟩
    · exact (padded_inj ((length_coordinates _).trans placed.symm)).mp (corner.symm.trans bounds)
    · exact (padded_inj ((length_channels _).trans components.symm)).mp (shade.symm.trans colored)
  · rintro ⟨rfl, rfl, rfl, rfl, rfl⟩
    exact ⟨rfl, rfl, rfl, corner, shade⟩

/-- The numbers of a probe are as many as its extent and its format have. -/
theorem ProbeGrammar.lengths {extent : Extent} {withAlpha : Bool} {position color : List Single}
    (grammar : ProbeGrammar extent withAlpha position color tokens) :
    position.length = extent.arity ∧ color.length = if withAlpha then 4 else 3 := by
  obtain ⟨-, -, placed, components, -⟩ := grammar
  exact ⟨placed.1, components⟩

/-! ### Brackets -/

/-- Without its brackets, a probe is still a word for its extent, a word for its format and its
numbers. -/
theorem ProbeGrammar.probeExtent_withoutBrackets {extent : Extent} {withAlpha : Bool}
    {position color : List Single} (grammar : ProbeGrammar extent withAlpha position color tokens) :
    ∃ numerals, Numerals numerals (position ++ color) ∧
      probeExtent (withoutBrackets tokens) = .ok (extent, formatWord withAlpha, numerals) := by
  obtain @⟨modifiers, place, shade, format, modified, formatted, placed, -, shaded⟩ := grammar
  have coordinates : Numerals (withoutBrackets place) position := by
    obtain ⟨count, placed⟩ := placed
    cases extent with
    | window =>
      obtain rfl : place = [] := placed
      obtain rfl := List.length_eq_zero_iff.mp count
      rfl
    | pixel => exact IsTuple.withoutBrackets placed
    | rect => exact IsTuple.withoutBrackets placed
  refine ⟨withoutBrackets place ++ withoutBrackets shade, ?_, ?_⟩
  · rw [Numerals, List.map_append, List.map_append, coordinates, shaded.withoutBrackets]
  · refine probeExtent_eq_ok.mpr ⟨modifiers, format, modified, formatted, ?_⟩
    have words : (modifiers ++ [format]).map Token.word? =
        (extent.words ++ [formatWord withAlpha]).map some := by
      rw [List.map_append, List.map_append, modified, List.map_singleton, formatted,
        List.map_singleton]
    calc withoutBrackets (modifiers ++ format :: (place ++ shade))
        = withoutBrackets (modifiers ++ [format] ++ (place ++ shade)) := by
          rw [List.append_assoc, List.singleton_append]
      _ = withoutBrackets (modifiers ++ [format]) ++
            (withoutBrackets place ++ withoutBrackets shade) := by
          rw [withoutBrackets_append, withoutBrackets_append place shade]
      _ = modifiers ++ [format] ++ (withoutBrackets place ++ withoutBrackets shade) := by
          rw [withoutBrackets_of_words words]
      _ = modifiers ++ format :: (withoutBrackets place ++ withoutBrackets shade) :=
          List.append_assoc _ _ _

/-- The words of the two formats differ. -/
theorem formatWord_injective : ∀ first second, formatWord first = formatWord second →
    first = second := by
  decide

/-- Probes that differ in their brackets only have the same flags and the same numbers. -/
theorem ProbeGrammar.unique {extent extent' : Extent} {withAlpha withAlpha' : Bool}
    {position color position' color' : List Single} {others : List Token}
    (grammar : ProbeGrammar extent withAlpha position color tokens)
    (other : ProbeGrammar extent' withAlpha' position' color' others)
    (same : withoutBrackets tokens = withoutBrackets others) :
    extent = extent' ∧ withAlpha = withAlpha' ∧ position = position' ∧ color = color' := by
  obtain ⟨numerals, narrowed, read⟩ := grammar.probeExtent_withoutBrackets
  obtain ⟨numerals', narrowed', read'⟩ := other.probeExtent_withoutBrackets
  rw [same, read'] at read
  simp only [Except.ok.injEq, Prod.mk.injEq] at read
  obtain ⟨rfl, formats, rfl⟩ := read
  obtain rfl := formatWord_injective _ _ formats
  have numbers : position ++ color = position' ++ color' :=
    List.map_injective_iff.mpr (fun _ _ => Option.some.inj) (narrowed.symm.trans narrowed')
  obtain ⟨rfl, rfl⟩ := List.append_inj numbers (grammar.lengths.1.trans other.lengths.1.symm)
  exact ⟨rfl, rfl, rfl, rfl⟩

end Command

end GpuScript

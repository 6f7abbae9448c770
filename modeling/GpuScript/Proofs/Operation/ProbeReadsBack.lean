import GpuScript.Proofs.Operation.ReadsBack

/-!
# Probes of the framebuffer read back

A probe is read as its extent, its format and its numbers. The pixel has no word for its extent, so
the format says that there is none; the reader of a storage buffer probe is told apart by `ssbo`.
-/

namespace GpuScript

open Command

namespace Command

/-- The word of a colour format. -/
def formatWord (withAlpha : Bool) : String :=
  if withAlpha then "rgba" else "rgb"

/-- The word of an extent, if it has one. -/
def Extent.words : Extent → List String
  | window => ["all"]
  | pixel => []
  | rect => ["rect"]

/-- The extent of a region. -/
def Extent.ofRegion : Region → Extent
  | .window => window
  | .pixel _ _ => pixel
  | .rect _ _ _ _ => rect

/-- The numbers of a region. -/
def coordinates : Region → List Single
  | .window => []
  | .pixel x y => [x, y]
  | .rect x y width height => [x, y, width, height]

/-- The colour has an alpha that is looked at. -/
def hasAlpha : ProbeColor → Bool
  | .rgb _ _ _ => false
  | .rgba _ _ _ _ => true

/-- The numbers of a colour. -/
def channels : ProbeColor → List Single
  | .rgb r g b => [r, g, b]
  | .rgba r g b a => [r, g, b, a]

/-- The tokens of numbers. -/
def numberTokens (numbers : List Single) : List Token :=
  numbers.map fun number => wordToken number.text

/-- The words of a probe after `probe`: the extent, the format and the numbers. -/
def probeWords (probe : Probe) : List String :=
  (Extent.ofRegion probe.region).words ++ formatWord (hasAlpha probe.color) ::
    ((coordinates probe.region ++ channels probe.color).map Binary.text)

/-- The words of a probe are those after `probe`, and the one or two before. -/
theorem words_probe (probe : Probe) :
    probe.words = GpuScript.optionalWord probe.relative "relative" ++
      "probe" :: probeWords probe := by
  obtain ⟨relative, region, color⟩ := probe
  cases region <;> cases color <;> rfl

/-- The extent of a probe and its format read back. -/
theorem probeExtent_wordTokens (extent : Extent) (withAlpha : Bool) (rest : List Token) :
    probeExtent ((extent.words ++ [formatWord withAlpha]).map wordToken ++ rest) =
      .ok (extent, formatWord withAlpha, rest) := by
  cases extent <;> cases withAlpha <;> rfl

/-- The format of a probe reads back. -/
theorem probeFormat_formatWord (withAlpha : Bool) :
    probeFormat (formatWord withAlpha) = .ok withAlpha := by
  cases withAlpha <;> rfl

/-- The region of a probe reads back in front of a word. -/
theorem probeRegion_wordTokens (region : Region) (next : String) (rest : List Token) :
    probeRegion (.ofRegion region) (numberTokens (coordinates region) ++ wordToken next :: rest) =
      region.reread.map fun again => (again, wordToken next :: rest) := by
  cases region with
  | window => rfl
  | pixel x y =>
    have whole := bracketed_wordToken (pair_wordTokens x y (wordToken next :: rest))
    simp only [Extent.ofRegion, probeRegion, coordinates, numberTokens, List.map_cons,
      List.map_nil, List.cons_append, List.nil_append, whole, Region.reread]
    cases both x.reread y.reread <;> rfl
  | rect x y width height =>
    have whole :=
      bracketed_wordToken (quadruple_wordTokens x y width height (wordToken next :: rest))
    simp only [Extent.ofRegion, probeRegion, coordinates, numberTokens, List.map_cons,
      List.map_nil, List.cons_append, List.nil_append, whole, Region.reread]
    cases both x.reread (both y.reread (both width.reread height.reread)) <;> rfl

/-- The colour of a probe reads back at the end of a line. -/
theorem probeColor_wordTokens (color : ProbeColor) :
    probeColor (hasAlpha color) (numberTokens (channels color)) =
      color.reread.map fun again => (again, []) := by
  cases color with
  | rgb r g b =>
    have whole := bracketed_wordToken_nil (triple_wordTokens r g b [])
    simp only [hasAlpha, probeColor, channels, numberTokens, List.map_cons, List.map_nil, whole,
      ProbeColor.reread]
    cases both r.reread (both g.reread b.reread) <;> rfl
  | rgba r g b a =>
    have whole := bracketed_wordToken_nil (quadruple_wordTokens r g b a [])
    simp only [hasAlpha, probeColor, channels, numberTokens, List.map_cons, List.map_nil, whole,
      ProbeColor.reread]
    cases both r.reread (both g.reread (both b.reread a.reread)) <;> rfl

/-- The colour of a probe has a first number. -/
theorem exists_numberTokens_channels (color : ProbeColor) :
    ∃ next rest, numberTokens (channels color) = wordToken next :: rest := by
  cases color with
  | rgb r g b => exact ⟨_, _, rfl⟩
  | rgba r g b a => exact ⟨_, _, rfl⟩

/-- A probe of the framebuffer reads back from the words after `probe`. -/
theorem probeFramebuffer_probeWords (probe : Probe) :
    probeFramebuffer probe.relative ((probeWords probe).map wordToken) =
      (Operation.probe probe).reread := by
  obtain ⟨next, rest, split⟩ := exists_numberTokens_channels probe.color
  have tokens : (probeWords probe).map wordToken =
      ((Extent.ofRegion probe.region).words ++ [formatWord (hasAlpha probe.color)]).map wordToken ++
        (numberTokens (coordinates probe.region) ++ numberTokens (channels probe.color)) := by
    simp [probeWords, numberTokens, Function.comp_def]
  have shade := probeColor_wordTokens probe.color
  rw [split] at shade
  rw [probeFramebuffer, tokens, probeExtent_wordTokens, ok_bind]
  simp only [probeFormat_formatWord, ok_bind]
  rw [split, probeRegion_wordTokens, Operation.reread, Probe.reread]
  cases probe.region.reread with
  | error cause => rfl
  | ok region =>
    simp only [Except.map, ok_bind, shade]
    cases probe.color.reread <;> rfl

/-- No probe of the framebuffer goes on like a probe of a storage buffer. -/
theorem optionalWord_probeWords (probe : Probe) :
    optionalWord "ssbo" ((probeWords probe).map wordToken) =
      (false, (probeWords probe).map wordToken) := by
  obtain ⟨relative, region, color⟩ := probe
  cases region with
  | window => exact @optionalWord_of_ne "ssbo" "all" (by decide) (by decide) _
  | rect x y width height => exact @optionalWord_of_ne "ssbo" "rect" (by decide) (by decide) _
  | pixel x y =>
    cases color with
    | rgb r g b => exact @optionalWord_of_ne "ssbo" "rgb" (by decide) (by decide) _
    | rgba r g b a => exact @optionalWord_of_ne "ssbo" "rgba" (by decide) (by decide) _

/-- `probe` and `relative probe` read back. -/
theorem reread_probe (probe : Probe) :
    ∃ command words, probe.words = command :: words ∧
      readOperation Pipeline.default command (words.map wordToken) =
        (Operation.probe probe).reread := by
  have read := probeFramebuffer_probeWords probe
  obtain ⟨relative, region, shade⟩ := probe
  cases relative with
  | true =>
    refine ⟨_, _, words_probe _, ?_⟩
    change Command.relative (wordToken "probe" :: _) = _
    rw [Command.relative, optionalWord_of_isName (by decide)]
    exact read
  | false =>
    refine ⟨_, _, words_probe _, ?_⟩
    change Command.probe ((probeWords ⟨false, region, shade⟩).map wordToken) = _
    rw [Command.probe, optionalWord_probeWords]
    exact read

end Command

end GpuScript

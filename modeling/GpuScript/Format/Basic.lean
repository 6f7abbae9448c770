import GpuScript.Value

/-!
# Image formats

A format is a name, a number and the parts that a pixel or a vertex cell consists of. A packed
format keeps all parts in one word; any other format keeps each part by itself.
-/

namespace GpuScript

/-- What a part of a format holds. -/
inductive Component where
  /-- Red. -/
  | r
  /-- Green. -/
  | g
  /-- Blue. -/
  | b
  /-- Alpha. -/
  | a
  /-- Depth. -/
  | d
  /-- Stencil. -/
  | s
  /-- Nothing: the bits are unused. -/
  | x
  deriving DecidableEq

/-- How the bits of a part are read as a number. -/
inductive Mode where
  /-- Unsigned, scaled to the unit interval. -/
  | unorm
  /-- Signed, scaled to the interval from minus one to one. -/
  | snorm
  /-- An unsigned integer, read as a floating-point number. -/
  | uscaled
  /-- A signed integer, read as a floating-point number. -/
  | sscaled
  /-- An unsigned integer. -/
  | uint
  /-- A signed integer. -/
  | sint
  /-- A floating-point number without a sign. -/
  | ufloat
  /-- A floating-point number with a sign. -/
  | sfloat
  /-- Unsigned, on the nonlinear scale of the colour space of that name. -/
  | srgb
  deriving DecidableEq

namespace Component

/-- The letter of a component. -/
def name : Component → String
  | r => "R"
  | g => "G"
  | b => "B"
  | a => "A"
  | d => "D"
  | s => "S"
  | x => "X"

end Component

namespace Mode

/-- All modes. -/
def all : List Mode :=
  [unorm, snorm, uscaled, sscaled, uint, sint, ufloat, sfloat, srgb]

/-- The name of a mode as it stands in the names of formats. -/
def name : Mode → String
  | unorm => "UNORM"
  | snorm => "SNORM"
  | uscaled => "USCALED"
  | sscaled => "SSCALED"
  | uint => "UINT"
  | sint => "SINT"
  | ufloat => "UFLOAT"
  | sfloat => "SFLOAT"
  | srgb => "SRGB"

/-- The mode holds floating-point numbers. -/
def isFloat : Mode → Bool
  | ufloat | sfloat => true
  | _ => false

/-- The mode holds numbers with a sign. -/
def isSigned : Mode → Bool
  | snorm | sscaled | sint | sfloat => true
  | _ => false

/-- The kind of number that stores a part with this mode. Normalized and scaled parts are stored
as the integers that encode them. -/
def base (mode : Mode) : BaseType :=
  if mode.isFloat then .float
  else if mode.isSigned then .signed
  else .unsigned

end Mode

/-- A part of a format. -/
structure Part where
  /-- The number of bits of the part. -/
  bits : Nat
  /-- What the part holds. -/
  component : Component
  /-- How its bits are read. -/
  mode : Mode
  deriving DecidableEq

/-- An image format. -/
structure Format where
  /-- The name of the format. -/
  name : String
  /-- The number of the format in the interface of the device. -/
  number : Nat
  /-- The number of bits of the word that a packed format is kept in. -/
  packedBits : Option Nat
  /-- The parts in order. -/
  parts : List Part
  deriving DecidableEq

namespace Format

/-- The first part, if all parts have its size and its mode. -/
def uniformPart? (format : Format) : Option Part :=
  match format.parts with
  | [] => none
  | first :: rest =>
    if rest.all fun part => part.bits == first.bits && part.mode == first.mode then
      some first
    else
      none

/-- The number of bytes of a pixel or cell. -/
def size (format : Format) : Nat :=
  match format.packedBits with
  | some bits => bits / 8
  | none => format.parts.foldr (fun part total => part.bits + total) 0 / 8

/-- The number of bytes whose multiples a cell may start at. -/
def alignment (format : Format) : Nat :=
  match format.packedBits with
  | some bits => bits / 8
  | none => (format.parts.foldl (fun widest part => max widest part.bits) 0) / 8

/-- The components of a vector in order. -/
def vectorOrder : List Component := [.r, .g, .b, .a]

/-- The format keeps each part by itself, and its parts are the first components of a vector, each
with the given size and mode. -/
def isVector (bits : Nat) (mode : Mode) (count : Nat) (format : Format) : Bool :=
  format.parts.length == count && format.packedBits.isNone
    && (format.parts.zip vectorOrder).all fun (part, component) =>
      part.bits == bits && part.component == component && part.mode == mode

end Format

end GpuScript

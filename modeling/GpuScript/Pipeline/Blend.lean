import GpuScript.Pipeline.Named

/-!
# Blending

How a fragment is combined with the framebuffer, and which components of the result are written.
-/

namespace GpuScript

/-- The logical operation between a fragment and the framebuffer. -/
inductive LogicOp where
  | clear | and | andReverse | copy | andInverted | noOp | xor | or | nor | equivalent | invert
  | orReverse | copyInverted | orInverted | nand | set
  deriving DecidableEq

namespace LogicOp

/-- Every value of the enumeration, in order. -/
def all : List LogicOp :=
  [.clear, .and, .andReverse, .copy, .andInverted, .noOp, .xor, .or, .nor, .equivalent, .invert,
    .orReverse, .copyInverted, .orInverted, .nand, .set]

/-- The name of the value in scripts. -/
def name : LogicOp → String
  | clear => "VK_LOGIC_OP_CLEAR"
  | and => "VK_LOGIC_OP_AND"
  | andReverse => "VK_LOGIC_OP_AND_REVERSE"
  | copy => "VK_LOGIC_OP_COPY"
  | andInverted => "VK_LOGIC_OP_AND_INVERTED"
  | noOp => "VK_LOGIC_OP_NO_OP"
  | xor => "VK_LOGIC_OP_XOR"
  | or => "VK_LOGIC_OP_OR"
  | nor => "VK_LOGIC_OP_NOR"
  | equivalent => "VK_LOGIC_OP_EQUIVALENT"
  | invert => "VK_LOGIC_OP_INVERT"
  | orReverse => "VK_LOGIC_OP_OR_REVERSE"
  | copyInverted => "VK_LOGIC_OP_COPY_INVERTED"
  | orInverted => "VK_LOGIC_OP_OR_INVERTED"
  | nand => "VK_LOGIC_OP_NAND"
  | set => "VK_LOGIC_OP_SET"

end LogicOp

instance : Named LogicOp where
  kind := "LogicOp"
  all := LogicOp.all
  name := LogicOp.name

/-- What a blended colour is multiplied by. -/
inductive BlendFactor where
  | zero | one | srcColor | oneMinusSrcColor | dstColor | oneMinusDstColor | srcAlpha
  | oneMinusSrcAlpha | dstAlpha | oneMinusDstAlpha | constantColor | oneMinusConstantColor
  | constantAlpha | oneMinusConstantAlpha | srcAlphaSaturate | src1Color | oneMinusSrc1Color
  | src1Alpha | oneMinusSrc1Alpha
  deriving DecidableEq

namespace BlendFactor

/-- Every value of the enumeration, in order. -/
def all : List BlendFactor :=
  [.zero, .one, .srcColor, .oneMinusSrcColor, .dstColor, .oneMinusDstColor, .srcAlpha,
    .oneMinusSrcAlpha, .dstAlpha, .oneMinusDstAlpha, .constantColor, .oneMinusConstantColor,
    .constantAlpha, .oneMinusConstantAlpha, .srcAlphaSaturate, .src1Color, .oneMinusSrc1Color,
    .src1Alpha, .oneMinusSrc1Alpha]

/-- The name of the value in scripts. -/
def name : BlendFactor → String
  | zero => "VK_BLEND_FACTOR_ZERO"
  | one => "VK_BLEND_FACTOR_ONE"
  | srcColor => "VK_BLEND_FACTOR_SRC_COLOR"
  | oneMinusSrcColor => "VK_BLEND_FACTOR_ONE_MINUS_SRC_COLOR"
  | dstColor => "VK_BLEND_FACTOR_DST_COLOR"
  | oneMinusDstColor => "VK_BLEND_FACTOR_ONE_MINUS_DST_COLOR"
  | srcAlpha => "VK_BLEND_FACTOR_SRC_ALPHA"
  | oneMinusSrcAlpha => "VK_BLEND_FACTOR_ONE_MINUS_SRC_ALPHA"
  | dstAlpha => "VK_BLEND_FACTOR_DST_ALPHA"
  | oneMinusDstAlpha => "VK_BLEND_FACTOR_ONE_MINUS_DST_ALPHA"
  | constantColor => "VK_BLEND_FACTOR_CONSTANT_COLOR"
  | oneMinusConstantColor => "VK_BLEND_FACTOR_ONE_MINUS_CONSTANT_COLOR"
  | constantAlpha => "VK_BLEND_FACTOR_CONSTANT_ALPHA"
  | oneMinusConstantAlpha => "VK_BLEND_FACTOR_ONE_MINUS_CONSTANT_ALPHA"
  | srcAlphaSaturate => "VK_BLEND_FACTOR_SRC_ALPHA_SATURATE"
  | src1Color => "VK_BLEND_FACTOR_SRC1_COLOR"
  | oneMinusSrc1Color => "VK_BLEND_FACTOR_ONE_MINUS_SRC1_COLOR"
  | src1Alpha => "VK_BLEND_FACTOR_SRC1_ALPHA"
  | oneMinusSrc1Alpha => "VK_BLEND_FACTOR_ONE_MINUS_SRC1_ALPHA"

end BlendFactor

instance : Named BlendFactor where
  kind := "BlendFactor"
  all := BlendFactor.all
  name := BlendFactor.name

/-- How the source and the destination of a blend are combined. -/
inductive BlendOp where
  | add | subtract | reverseSubtract | min | max | zero | src | dst | srcOver | dstOver | srcIn
  | dstIn | srcOut | dstOut | srcAtop | dstAtop | xor | multiply | screen | overlay | darken
  | lighten | colorDodge | colorBurn | hardLight | softLight | difference | exclusion | invert
  | invertRgb | linearDodge | linearBurn | vividLight | linearLight | pinLight | hardMix | hslHue
  | hslSaturation | hslColor | hslLuminosity | plus | plusClamped | plusClampedAlpha | plusDarker
  | minus | minusClamped | contrast | invertOvg | red | green | blue
  deriving DecidableEq

namespace BlendOp

/-- Every value of the enumeration, in order. -/
def all : List BlendOp :=
  [.add, .subtract, .reverseSubtract, .min, .max, .zero, .src, .dst, .srcOver, .dstOver, .srcIn,
    .dstIn, .srcOut, .dstOut, .srcAtop, .dstAtop, .xor, .multiply, .screen, .overlay, .darken,
    .lighten, .colorDodge, .colorBurn, .hardLight, .softLight, .difference, .exclusion, .invert,
    .invertRgb, .linearDodge, .linearBurn, .vividLight, .linearLight, .pinLight, .hardMix,
    .hslHue, .hslSaturation, .hslColor, .hslLuminosity, .plus, .plusClamped, .plusClampedAlpha,
    .plusDarker, .minus, .minusClamped, .contrast, .invertOvg, .red, .green, .blue]

/-- The name of the value in scripts. -/
def name : BlendOp → String
  | add => "VK_BLEND_OP_ADD"
  | subtract => "VK_BLEND_OP_SUBTRACT"
  | reverseSubtract => "VK_BLEND_OP_REVERSE_SUBTRACT"
  | min => "VK_BLEND_OP_MIN"
  | max => "VK_BLEND_OP_MAX"
  | zero => "VK_BLEND_OP_ZERO_EXT"
  | src => "VK_BLEND_OP_SRC_EXT"
  | dst => "VK_BLEND_OP_DST_EXT"
  | srcOver => "VK_BLEND_OP_SRC_OVER_EXT"
  | dstOver => "VK_BLEND_OP_DST_OVER_EXT"
  | srcIn => "VK_BLEND_OP_SRC_IN_EXT"
  | dstIn => "VK_BLEND_OP_DST_IN_EXT"
  | srcOut => "VK_BLEND_OP_SRC_OUT_EXT"
  | dstOut => "VK_BLEND_OP_DST_OUT_EXT"
  | srcAtop => "VK_BLEND_OP_SRC_ATOP_EXT"
  | dstAtop => "VK_BLEND_OP_DST_ATOP_EXT"
  | xor => "VK_BLEND_OP_XOR_EXT"
  | multiply => "VK_BLEND_OP_MULTIPLY_EXT"
  | screen => "VK_BLEND_OP_SCREEN_EXT"
  | overlay => "VK_BLEND_OP_OVERLAY_EXT"
  | darken => "VK_BLEND_OP_DARKEN_EXT"
  | lighten => "VK_BLEND_OP_LIGHTEN_EXT"
  | colorDodge => "VK_BLEND_OP_COLORDODGE_EXT"
  | colorBurn => "VK_BLEND_OP_COLORBURN_EXT"
  | hardLight => "VK_BLEND_OP_HARDLIGHT_EXT"
  | softLight => "VK_BLEND_OP_SOFTLIGHT_EXT"
  | difference => "VK_BLEND_OP_DIFFERENCE_EXT"
  | exclusion => "VK_BLEND_OP_EXCLUSION_EXT"
  | invert => "VK_BLEND_OP_INVERT_EXT"
  | invertRgb => "VK_BLEND_OP_INVERT_RGB_EXT"
  | linearDodge => "VK_BLEND_OP_LINEARDODGE_EXT"
  | linearBurn => "VK_BLEND_OP_LINEARBURN_EXT"
  | vividLight => "VK_BLEND_OP_VIVIDLIGHT_EXT"
  | linearLight => "VK_BLEND_OP_LINEARLIGHT_EXT"
  | pinLight => "VK_BLEND_OP_PINLIGHT_EXT"
  | hardMix => "VK_BLEND_OP_HARDMIX_EXT"
  | hslHue => "VK_BLEND_OP_HSL_HUE_EXT"
  | hslSaturation => "VK_BLEND_OP_HSL_SATURATION_EXT"
  | hslColor => "VK_BLEND_OP_HSL_COLOR_EXT"
  | hslLuminosity => "VK_BLEND_OP_HSL_LUMINOSITY_EXT"
  | plus => "VK_BLEND_OP_PLUS_EXT"
  | plusClamped => "VK_BLEND_OP_PLUS_CLAMPED_EXT"
  | plusClampedAlpha => "VK_BLEND_OP_PLUS_CLAMPED_ALPHA_EXT"
  | plusDarker => "VK_BLEND_OP_PLUS_DARKER_EXT"
  | minus => "VK_BLEND_OP_MINUS_EXT"
  | minusClamped => "VK_BLEND_OP_MINUS_CLAMPED_EXT"
  | contrast => "VK_BLEND_OP_CONTRAST_EXT"
  | invertOvg => "VK_BLEND_OP_INVERT_OVG_EXT"
  | red => "VK_BLEND_OP_RED_EXT"
  | green => "VK_BLEND_OP_GREEN_EXT"
  | blue => "VK_BLEND_OP_BLUE_EXT"

end BlendOp

instance : Named BlendOp where
  kind := "BlendOp"
  all := BlendOp.all
  name := BlendOp.name

/-- The components of a colour that are written, as a set of bits. -/
abbrev ColorMask : Type := UInt8

namespace ColorMask

/-- The bit of each component of a colour, by the name of the component. -/
def bits : List (String × ColorMask) :=
  [("VK_COLOR_COMPONENT_R_BIT", 1),
    ("VK_COLOR_COMPONENT_G_BIT", 2),
    ("VK_COLOR_COMPONENT_B_BIT", 4),
    ("VK_COLOR_COMPONENT_A_BIT", 8)]

/-- All four components. -/
def all : ColorMask := 15

/-- The bit of the component with a name. -/
def ofName? (name : String) : Option ColorMask :=
  (bits.find? fun entry => entry.1 == name).map Prod.snd

end ColorMask

end GpuScript

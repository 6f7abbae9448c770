import GpuScript.Feature
import GpuScript.Format.Table
import GpuScript.Text.Blank
import GpuScript.Token.Line

/-!
# Require sections

What a script needs from the device: features, formats of the framebuffer, its size, a version of
the interface, and extensions. Every logical line of a require section is one of these, on its own.
-/

namespace GpuScript

open Text

/-- A requirement that is not an extension. -/
inductive Requirement where
  /-- An optional feature. -/
  | feature (feature : Feature)
  /-- A format of the colours of the framebuffer. -/
  | framebuffer (format : Format)
  /-- A format of the depths and stencil values of the framebuffer. -/
  | depthStencil (format : Format)
  /-- A size of the framebuffer. -/
  | framebufferSize (width height : UInt32)
  /-- A least version of the interface. -/
  | vulkanVersion (major minor patch : UInt32)
  deriving DecidableEq

namespace Requirement

/-- The name of a requirement in a script. -/
def name : Requirement → String
  | feature device => device.name
  | framebuffer _ => "framebuffer"
  | depthStencil _ => "depthstencil"
  | framebufferSize _ _ => "fbsize"
  | vulkanVersion _ _ _ => "vulkan"

/-- The format that is required. -/
def format? : Requirement → Option Format
  | framebuffer format => some format
  | depthStencil format => some format
  | _ => none

/-- Why a line of a require section is refused. -/
inductive Error where
  /-- The line opens with nothing that can be required. -/
  | invalidLine
  /-- A format is missing. -/
  | missingFormat
  /-- No format has the name. -/
  | unknownFormat (name : String)
  /-- A size is not two unsigned words. -/
  | invalidSize
  /-- A version is not at most three numbers with points between them. -/
  | invalidVersion
  /-- Something follows a requirement. -/
  | extraOperand (name : String)
  deriving DecidableEq

namespace Error

/-- The message for a cause. -/
def message : Error → String
  | invalidLine => "Invalid require line"
  | missingFormat => "Missing format name"
  | unknownFormat name => "Unknown format: " ++ name
  | invalidSize => "Invalid fbsize"
  | invalidVersion => "Invalid Vulkan version"
  | extraOperand name => "Extra parameter for " ++ name ++ " requirement"

end Error

/-- A character of the name of an extension. -/
def isExtensionCharacter (character : Char) : Bool :=
  character.isAlphanum || character == '_'

/-- The version that a text stands for; parts that are left out are zero. -/
def versionOf? (text : String) : Option (UInt32 × UInt32 × UInt32) :=
  match (pieces (· == '.') text.toList).map word32? with
  | [some major] => some (major, 0, 0)
  | [some major, some minor] => some (major, minor, 0)
  | [some major, some minor, some patch] => some (major, minor, patch)
  | _ => none

/-- The end of a line after what it requires. -/
def finish (name : String) : List Token → Except (Located Error) Unit
  | [] => .ok ()
  | token :: _ => .error ⟨token.line, .extraOperand name⟩

/-- A format and the tokens after it, for a line with a number. -/
def readFormat (line : Nat) : List Token → Except (Located Error) (Format × List Token)
  | [] => .error ⟨line, .missingFormat⟩
  | token :: rest =>
    match Format.ofName? token.text with
    | some format => .ok (format, rest)
    | none => .error ⟨line, .unknownFormat token.text⟩

/-- A size, which takes all tokens that are left. -/
def readSize (line : Nat) : List Token → Except (Located Error) Requirement
  | [width, height] =>
    match width.kind.word32?, height.kind.word32? with
    | some width, some height => .ok (.framebufferSize width height)
    | _, _ => .error ⟨line, .invalidSize⟩
  | _ => .error ⟨line, .invalidSize⟩

/-- A version, which takes all tokens that are left. -/
def readVersion (line : Nat) : List Token → Except (Located Error) Requirement
  | [token] =>
    match versionOf? token.text with
    | some (major, minor, patch) => .ok (.vulkanVersion major minor patch)
    | none => .error ⟨line, .invalidVersion⟩
  | _ => .error ⟨line, .invalidVersion⟩

end Requirement

/-- What one line of a require section asks for. -/
inductive RequireEntry where
  /-- A requirement. -/
  | requirement (requirement : Requirement)
  /-- An extension, by its name. -/
  | extension (name : String)
  deriving DecidableEq

namespace RequireEntry

open Requirement

/-- The requirement of an entry, if it is one. -/
def requirement? : RequireEntry → Option Requirement
  | requirement value => some value
  | extension _ => none

/-- The extension of an entry, if it is one. -/
def extension? : RequireEntry → Option String
  | requirement _ => none
  | extension name => some name

/-- What a line asks for whose first word is a name. -/
def readNamed (line : Nat) (name : String) (tokens : List Token) :
    Except (Located Error) RequireEntry :=
  match name with
  | "framebuffer" => do
    let (format, tokens) ← readFormat line tokens
    finish name tokens
    .ok (.requirement (.framebuffer format))
  | "depthstencil" => do
    let (format, tokens) ← readFormat line tokens
    finish name tokens
    .ok (.requirement (.depthStencil format))
  | "fbsize" => (readSize line tokens).map .requirement
  | "vulkan" => (readVersion line tokens).map .requirement
  | _ =>
    match Feature.ofName? name with
    | some device => do
      finish name tokens
      .ok (.requirement (.feature device))
    | none =>
      if name.toList.all isExtensionCharacter then do
        finish name tokens
        .ok (.extension name)
      else
        .error ⟨line, .invalidLine⟩

/-- What a line asks for. -/
def readLine (line : TokenLine) : Except (Located Error) RequireEntry :=
  match line.first.word? with
  | none => .error ⟨line.line, .invalidLine⟩
  | some name => readNamed line.line name line.rest

end RequireEntry

/-- Everything that a require section asks for. -/
structure Requirements where
  /-- The requirements in order. -/
  requirements : List Requirement
  /-- The names of the extensions in order. -/
  extensions : List String
  deriving DecidableEq

namespace Requirements

/-- The requirements and the extensions among entries. -/
def ofEntries (entries : List RequireEntry) : Requirements :=
  ⟨entries.filterMap RequireEntry.requirement?, entries.filterMap RequireEntry.extension?⟩

/-- The section asks for nothing. -/
def isEmpty (requirements : Requirements) : Bool :=
  requirements.requirements.isEmpty && requirements.extensions.isEmpty

/-- What the body of a section asks for whose first line has the given number. -/
def parse (text : String) (firstLine : Nat) :
    Except (Located Requirement.Error) Requirements :=
  ((TokenLine.ofText text firstLine).mapM RequireEntry.readLine).map ofEntries

end Requirements

end GpuScript

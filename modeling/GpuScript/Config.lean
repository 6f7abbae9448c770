import GpuScript.Log

/-!
# Configuration

How strictly scripts are read and how much is said about it.
-/

namespace GpuScript

/-- How strictly scripts are read and how much is said about it. -/
structure Config where
  /-- The log records that are kept. -/
  verbosity : LogFilter
  /-- Whether text before the first section is refused. -/
  strict : Bool
  deriving DecidableEq

namespace Config

/-- Strict reading with warnings. -/
def default : Config :=
  ⟨.upTo .warn, true⟩

/-- The records that are kept when more of them are asked for a number of times. -/
def verbosityOfCount : Nat → LogFilter
  | 0 => .upTo .warn
  | 1 => .upTo .info
  | 2 => .upTo .debug
  | _ => .upTo .trace

end Config

end GpuScript

/-!
# Shader stages

The stages of a pipeline that a script can provide a shader for.
-/

namespace GpuScript

/-- A stage of a pipeline that a script can provide a shader for. -/
inductive Stage where
  | vertex | tessControl | tessEvaluation | geometry | fragment | compute
  deriving DecidableEq

namespace Stage

/-- Every stage, in the order of the pipeline. -/
def all : List Stage :=
  [.vertex, .tessControl, .tessEvaluation, .geometry, .fragment, .compute]

/-- The place of a stage in the pipeline. -/
def index : Stage → Nat
  | vertex => 0
  | tessControl => 1
  | tessEvaluation => 2
  | geometry => 3
  | fragment => 4
  | compute => 5

/-- The words that name a stage in headers and commands. -/
def words : Stage → List String
  | vertex => ["vertex"]
  | tessControl => ["tessellation", "control"]
  | tessEvaluation => ["tessellation", "evaluation"]
  | geometry => ["geometry"]
  | fragment => ["fragment"]
  | compute => ["compute"]

/-- The name of a stage: its words with a space between them. -/
def name (stage : Stage) : String :=
  " ".intercalate stage.words

/-- The stage whose name a text starts with, and the rest of the text. -/
def ofStart? (text : String) : Option (Stage × String) :=
  all.findSome? fun stage =>
    (stage.name.toList.isPrefixOf? text.toList).map fun rest => (stage, String.ofList rest)

end Stage

end GpuScript

/-!
# Enumerations with names

The settings of a pipeline that are one of a few fixed choices are written by name in scripts. An
enumeration lists its values and gives each its name; a name is read by searching that list.
-/

namespace GpuScript

/-- A type with finitely many values, each written by a name of its own. -/
class Named (α : Type) where
  /-- What messages call a value of the type. -/
  kind : String
  /-- Every value of the type. -/
  all : List α
  /-- The name of a value. -/
  name : α → String

namespace Named

/-- The value with a name. -/
def ofName? {α : Type} [Named α] (text : String) : Option α :=
  (all : List α).find? fun value => name value == text

end Named

end GpuScript

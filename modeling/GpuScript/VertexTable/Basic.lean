import GpuScript.Format.Table

/-!
# Vertex tables

The data of the vertices of a draw: columns with a location, a format and a place within a vertex,
and one row of cells for each vertex. A column starts at the first multiple of its alignment after
the column before it, and the whole vertex ends at a multiple of the widest alignment.
-/

namespace GpuScript

/-- The first multiple of an alignment that is not below a value. An alignment of zero is no
restriction. -/
def alignUp (value alignment : Nat) : Nat :=
  let step := max alignment 1
  (value + (step - 1)) / step * step

/-- A column of a vertex table. -/
structure Column where
  /-- The location of the attribute that the column feeds. -/
  location : UInt32
  /-- The format of the cells. -/
  format : Format
  /-- The byte of a vertex at which the column starts. -/
  offset : Nat
  deriving DecidableEq

namespace Column

/-- The first byte after the column. -/
def stop (column : Column) : Nat :=
  column.offset + column.format.size

/-- The number of values in a cell: one for a packed format, else one for each part. -/
def valueCount (column : Column) : Nat :=
  match column.format.packedBits with
  | some _ => 1
  | none => column.format.parts.length

end Column

/-- The values of one column for one vertex. -/
abbrev Cell : Type := List Value

/-- The data of the vertices of a draw. -/
structure VertexTable where
  /-- The columns in order. -/
  columns : List Column
  /-- The cells of each vertex, one for each column. -/
  rows : List (List Cell)
  /-- The number of bytes from one vertex to the next. -/
  stride : Nat
  deriving DecidableEq, BEq

namespace VertexTable

/-- The number of bytes from one vertex to the next when columns are laid out in order. -/
def strideOf (columns : List Column) : Nat :=
  alignUp ((columns.getLast?.map Column.stop).getD 0)
    (columns.foldl (fun widest column => max widest column.format.alignment) 1)

end VertexTable

end GpuScript

import GpuScript.Pipeline.Named
import GpuScript.SortedTable

/-!
# Primitives of a pipeline

How vertices become primitives, and which of their faces are drawn and how. Cull modes are sets of
faces, so they have a union.
-/

namespace GpuScript

/-- How the vertices of a draw are assembled into primitives. -/
inductive Topology where
  | pointList | lineList | lineStrip | triangleList | triangleStrip | triangleFan
  | lineListWithAdjacency | lineStripWithAdjacency | triangleListWithAdjacency
  | triangleStripWithAdjacency | patchList
  deriving DecidableEq

namespace Topology

/-- Every value of the enumeration, in order. -/
def all : List Topology :=
  [.pointList, .lineList, .lineStrip, .triangleList, .triangleStrip, .triangleFan,
    .lineListWithAdjacency, .lineStripWithAdjacency, .triangleListWithAdjacency,
    .triangleStripWithAdjacency, .patchList]

/-- The name of the value in scripts. -/
def name : Topology → String
  | pointList => "VK_PRIMITIVE_TOPOLOGY_POINT_LIST"
  | lineList => "VK_PRIMITIVE_TOPOLOGY_LINE_LIST"
  | lineStrip => "VK_PRIMITIVE_TOPOLOGY_LINE_STRIP"
  | triangleList => "VK_PRIMITIVE_TOPOLOGY_TRIANGLE_LIST"
  | triangleStrip => "VK_PRIMITIVE_TOPOLOGY_TRIANGLE_STRIP"
  | triangleFan => "VK_PRIMITIVE_TOPOLOGY_TRIANGLE_FAN"
  | lineListWithAdjacency => "VK_PRIMITIVE_TOPOLOGY_LINE_LIST_WITH_ADJACENCY"
  | lineStripWithAdjacency => "VK_PRIMITIVE_TOPOLOGY_LINE_STRIP_WITH_ADJACENCY"
  | triangleListWithAdjacency => "VK_PRIMITIVE_TOPOLOGY_TRIANGLE_LIST_WITH_ADJACENCY"
  | triangleStripWithAdjacency => "VK_PRIMITIVE_TOPOLOGY_TRIANGLE_STRIP_WITH_ADJACENCY"
  | patchList => "VK_PRIMITIVE_TOPOLOGY_PATCH_LIST"

end Topology

instance : Named Topology where
  kind := "Topology"
  all := Topology.all
  name := Topology.name

/-- What is drawn of a polygon. -/
inductive PolygonMode where
  | fill | line | point
  deriving DecidableEq

namespace PolygonMode

/-- Every value of the enumeration, in order. -/
def all : List PolygonMode :=
  [.fill, .line, .point]

/-- The name of the value in scripts. -/
def name : PolygonMode → String
  | fill => "VK_POLYGON_MODE_FILL"
  | line => "VK_POLYGON_MODE_LINE"
  | point => "VK_POLYGON_MODE_POINT"

end PolygonMode

instance : Named PolygonMode where
  kind := "PolygonMode"
  all := PolygonMode.all
  name := PolygonMode.name

/-- Which faces of polygons are discarded. -/
inductive CullMode where
  | none | front | back | frontAndBack
  deriving DecidableEq

namespace CullMode

/-- Every value of the enumeration, in order. -/
def all : List CullMode :=
  [.none, .front, .back, .frontAndBack]

/-- The name of the value in scripts. -/
def name : CullMode → String
  | none => "VK_CULL_MODE_NONE"
  | front => "VK_CULL_MODE_FRONT_BIT"
  | back => "VK_CULL_MODE_BACK_BIT"
  | frontAndBack => "VK_CULL_MODE_FRONT_AND_BACK"

end CullMode

instance : Named CullMode where
  kind := "CullMode"
  all := CullMode.all
  name := CullMode.name

/-- The winding order of the faces that count as front faces. -/
inductive FrontFace where
  | counterClockwise | clockwise
  deriving DecidableEq

namespace FrontFace

/-- Every value of the enumeration, in order. -/
def all : List FrontFace :=
  [.counterClockwise, .clockwise]

/-- The name of the value in scripts. -/
def name : FrontFace → String
  | counterClockwise => "VK_FRONT_FACE_COUNTER_CLOCKWISE"
  | clockwise => "VK_FRONT_FACE_CLOCKWISE"

end FrontFace

instance : Named FrontFace where
  kind := "FrontFace"
  all := FrontFace.all
  name := FrontFace.name

namespace Topology

/-- The topologies by the names that draw commands use for them: the names of two interfaces, each
without what all of its names begin with. -/
def drawTable : SortedTable (String × Topology) where
  key := Prod.fst
  entries :=
    #[("GL_LINES", .lineList),
      ("GL_LINES_ADJACENCY", .lineListWithAdjacency),
      ("GL_LINE_STRIP", .lineStrip),
      ("GL_LINE_STRIP_ADJACENCY", .lineStripWithAdjacency),
      ("GL_PATCHES", .patchList),
      ("GL_POINTS", .pointList),
      ("GL_TRIANGLES", .triangleList),
      ("GL_TRIANGLES_ADJACENCY", .triangleListWithAdjacency),
      ("GL_TRIANGLE_FAN", .triangleFan),
      ("GL_TRIANGLE_STRIP", .triangleStrip),
      ("GL_TRIANGLE_STRIP_ADJACENCY", .triangleStripWithAdjacency),
      ("LINE_LIST", .lineList),
      ("LINE_LIST_WITH_ADJACENCY", .lineListWithAdjacency),
      ("LINE_STRIP", .lineStrip),
      ("LINE_STRIP_WITH_ADJACENCY", .lineStripWithAdjacency),
      ("PATCH_LIST", .patchList),
      ("POINT_LIST", .pointList),
      ("TRIANGLE_FAN", .triangleFan),
      ("TRIANGLE_LIST", .triangleList),
      ("TRIANGLE_LIST_WITH_ADJACENCY", .triangleListWithAdjacency),
      ("TRIANGLE_STRIP", .triangleStrip),
      ("TRIANGLE_STRIP_WITH_ADJACENCY", .triangleStripWithAdjacency)]
  sorted := by decide +kernel

/-- The topology that a draw command calls by a name. -/
def ofDrawName? (name : String) : Option Topology :=
  (drawTable.find? name).map Prod.snd

/-- The name that draw commands are printed with. -/
def drawName : Topology → String
  | pointList => "POINT_LIST"
  | lineList => "LINE_LIST"
  | lineStrip => "LINE_STRIP"
  | triangleList => "TRIANGLE_LIST"
  | triangleStrip => "TRIANGLE_STRIP"
  | triangleFan => "TRIANGLE_FAN"
  | lineListWithAdjacency => "LINE_LIST_WITH_ADJACENCY"
  | lineStripWithAdjacency => "LINE_STRIP_WITH_ADJACENCY"
  | triangleListWithAdjacency => "TRIANGLE_LIST_WITH_ADJACENCY"
  | triangleStripWithAdjacency => "TRIANGLE_STRIP_WITH_ADJACENCY"
  | patchList => "PATCH_LIST"

end Topology

namespace CullMode

/-- The faces that either of two modes discards. -/
def union : CullMode → CullMode → CullMode
  | none, mode => mode
  | mode, none => mode
  | front, front => front
  | back, back => back
  | _, _ => frontAndBack

end CullMode

end GpuScript

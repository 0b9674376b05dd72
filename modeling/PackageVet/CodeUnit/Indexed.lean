import PackageVet.CodeUnit

/-! Units with indexes.

Next to its edges a unit keeps where the edges of a node lead and where the edges to a node come
from. Reading an export fills the three together, edge by edge, and then takes the edges into the
ends of units out again, node by node. Without its indexes such a unit is a plain one. -/
namespace PackageVet

structure IndexedUnit extends CodeUnit where
  successors : Index := {}
  predecessors : Index := {}
  deriving Repr

namespace IndexedUnit

def successorsOf (m : IndexedUnit) (id : NodeId) : List NodeId := m.successors.idsAt id

def predecessorsOf (m : IndexedUnit) (id : NodeId) : List NodeId := m.predecessors.idsAt id

/-! ### Edges -/

/-- One more edge; it is in the indexes once. -/
def addEdge (m : IndexedUnit) (source target : NodeId) (tags : List String) : IndexedUnit :=
  { m with
    successors := m.successors.ensure source target
    predecessors := m.predecessors.ensure target source
    edges := CodeUnit.addTags m.edges source target tags }

def addDotEdge (m : IndexedUnit) (edge : Dot.Edge) : IndexedUnit :=
  match nodeId? edge.source, nodeId? edge.target with
  | some source, some target => m.addEdge source target (CodeUnit.tagsOfDot edge)
  | _, _ => m

/-- Takes one edge out, into a node that is no longer in the index of predecessors. -/
def dropEdge (target : NodeId) (m : IndexedUnit) (source : NodeId) : IndexedUnit :=
  { m with
    edges := m.edges.erase (source, target)
    successors := m.successors.drop source target }

/-- Takes all edges into a node out. -/
def dropInEdges (m : IndexedUnit) (target : NodeId) : IndexedUnit :=
  (m.predecessorsOf target).foldl (dropEdge target)
    { m with predecessors := m.predecessors.erase target }

/-! ### Reading a unit from an export -/

/-- The ends of units among the nodes. -/
def ends (m : IndexedUnit) (arena : Arena) : List NodeId :=
  m.nodes.filter fun id => arena.kind id = "METHOD_RETURN"

/-- The unit with the edges of an export, but for those into the ends of units. -/
def readEdges (m : IndexedUnit) (graph : Dot.Graph) (arena : Arena) : IndexedUnit :=
  let m := graph.edges.foldl addDotEdge m
  (m.ends arena).foldl dropInEdges m

/-- The unit of an export, if it has one, and the arena with its nodes. -/
def ofDot (graph : Dot.Graph) (g : CodeGraph) (arena : Arena) : Option (IndexedUnit × Arena) := do
  let u ← CodeUnit.headOfDot graph g
  let nodes := CodeUnit.readNodes graph g u.id u.file
  let arena := nodes.foldl Arena.insertNode arena
  let m : IndexedUnit := { u with nodes := nodes.map ProgramNode.id }
  some (m.readEdges graph arena, arena)

end IndexedUnit

end PackageVet

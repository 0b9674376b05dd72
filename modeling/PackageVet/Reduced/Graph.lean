import PackageVet.Category
import PackageVet.Edges

/-! Reduced graphs: sensitive nodes and how one leads to another.

An edge remembers the nodes that were left out on the way. -/
namespace PackageVet

structure ReducedEdge where
  kind : EdgeKind
  /-- The nodes left out. -/
  elided : List NodeId
  deriving DecidableEq, Repr

/-- The ids of a list that another does not have, put after it. -/
def mergeIds (known ids : List NodeId) : List NodeId :=
  ids.foldl (fun known id => if id ∈ known then known else known ++ [id]) known

structure ReducedGraph where
  nodes : Table NodeId Category := {}
  edges : Edges ReducedEdge := {}
  deriving DecidableEq, Repr, Inhabited

namespace ReducedGraph

def addNode (r : ReducedGraph) (id : NodeId) (category : Category) : ReducedGraph :=
  { r with nodes := r.nodes.insert id category }

def edge? (r : ReducedGraph) (source target : NodeId) : Option ReducedEdge :=
  r.edges.get? (source, target)

/-- One more way between two nodes: data prevails over control, and more nodes are left out. -/
def addEdge (r : ReducedGraph) (source target : NodeId) (kind : EdgeKind) (elided : List NodeId) :
    ReducedGraph :=
  let edge : ReducedEdge := match r.edge? source target with
    | some known => { kind := known.kind.join kind, elided := mergeIds known.elided elided }
    | none => { kind, elided }
  { r with edges := r.edges.insert (source, target) edge }

def contains (r : ReducedGraph) (id : NodeId) : Bool := r.nodes.contains id

def category? (r : ReducedGraph) (id : NodeId) : Option Category := r.nodes.get? id

/-- The nodes of a category, in the order of the graph. -/
def nodesWith (r : ReducedGraph) (category : Category) : List NodeId :=
  (r.nodes.entries.filter fun e => e.2 = category).map Prod.fst

def successors (r : ReducedGraph) (id : NodeId) : List NodeId := r.edges.successors id

def edgeCount (r : ReducedGraph) : Nat := r.edges.size

def isEmpty (r : ReducedGraph) : Bool := r.nodes.entries.isEmpty

end ReducedGraph

end PackageVet

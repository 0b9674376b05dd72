import PackageVet.Behavior

/-! Behaviour graphs with indexes.

The nodes of a graph are kept in their order and as a set. Its edges are kept by their two ends, and
next to them stand two indexes: where the edges of a node lead, and where the edges to a node come
from. Every operation changes all four, and moving edges takes some out again on the way. Without
its indexes such a graph is a plain one (`table`). -/
namespace PackageVet

structure IndexedGraph where
  entrance : NodeId
  returns : List NodeId := []
  nodes : List NodeId := []
  /-- The nodes as a set. -/
  members : List NodeId := []
  edges : Edges (List String) := {}
  successors : Index := {}
  predecessors : Index := {}
  deriving DecidableEq, Repr

namespace IndexedGraph

instance : Inhabited IndexedGraph := ⟨{ entrance := 0 }⟩

/-- The graph without its indexes. -/
def table (m : IndexedGraph) : BehaviorGraph :=
  { entrance := m.entrance, returns := m.returns, nodes := m.nodes, edges := m.edges }

/-! ### What can be asked -/

def contains (m : IndexedGraph) (id : NodeId) : Bool := id ∈ m.members

def tags? (m : IndexedGraph) (source target : NodeId) : Option (List String) :=
  m.edges.get? (source, target)

def hasEdge (m : IndexedGraph) (source target : NodeId) : Bool := m.edges.contains (source, target)

def edgeKind? (m : IndexedGraph) (source target : NodeId) : Option EdgeKind :=
  (m.tags? source target).map EdgeKind.ofTags

def successorsOf (m : IndexedGraph) (id : NodeId) : List NodeId := m.successors.idsAt id

def predecessorsOf (m : IndexedGraph) (id : NodeId) : List NodeId := m.predecessors.idsAt id

def edgeCount (m : IndexedGraph) : Nat := m.edges.size

/-! ### Nodes and edges -/

def addNode (m : IndexedGraph) (id : NodeId) : IndexedGraph :=
  if id ∈ m.members then m else { m with members := id :: m.members, nodes := m.nodes ++ [id] }

def addReturn (m : IndexedGraph) (id : NodeId) : IndexedGraph :=
  if id ∈ m.returns then m else { m with returns := m.returns ++ [id] }

/-- The graph with an edge between two nodes, as yet without tags if it is new. -/
def link (m : IndexedGraph) (source target : NodeId) : IndexedGraph :=
  if m.hasEdge source target then m
  else
    { m with
      edges := m.edges.insert (source, target) []
      successors := m.successors.extend source target
      predecessors := m.predecessors.extend target source }

/-- The edge, with the tags that it does not have yet. -/
def addEdge (m : IndexedGraph) (source target : NodeId) (tags : List String) : IndexedGraph :=
  let m := m.link source target
  let known := (m.tags? source target).getD []
  { m with edges := m.edges.insert (source, target) (mergeTags known tags) }

/-- The edge with these tags, if the two are not linked yet. -/
def ensureEdge (m : IndexedGraph) (source target : NodeId) (tags : List String) : IndexedGraph :=
  if m.hasEdge source target then m else m.addEdge source target tags

/-- The edge as another graph has it; nothing where that one has none. -/
def copyEdge (other : IndexedGraph) (m : IndexedGraph) (source target : NodeId) : IndexedGraph :=
  match other.tags? source target with
  | some tags => m.addEdge source target tags
  | none => m

/-! ### Edges that start at another node -/

/-- Makes one edge start from another node, of one that is no longer in the index of successors. -/
def moveEdge (origin heir : NodeId) (m : IndexedGraph) (target : NodeId) : IndexedGraph :=
  let tags := (m.tags? origin target).getD []
  let m :=
    { m with
      edges := m.edges.erase (origin, target)
      predecessors := m.predecessors.drop target origin }
  m.addEdge heir target tags

/-- Makes every edge that starts at a node start at another, with its tags. -/
def moveOutEdges (m : IndexedGraph) (origin heir : NodeId) : IndexedGraph :=
  (m.successorsOf origin).foldl (moveEdge origin heir)
    { m with successors := m.successors.erase origin }

/-! ### Several graphs -/

/-- Adds the edges of another graph that start at a node. -/
def offer (other m : IndexedGraph) (source : NodeId) : IndexedGraph :=
  (other.successorsOf source).foldl (fun m target => copyEdge other m source target) m

/-- The union with another graph, unless that one's entrance is already here. The edges are gone
through by the other's nodes, and then by the keys of its index in an order. -/
def joinAlong (m other : IndexedGraph) (order : List NodeId) : IndexedGraph :=
  if m.contains other.entrance then m
  else (other.nodes ++ order).foldl other.offer (other.nodes.foldl addNode m)

def join (m other : IndexedGraph) : IndexedGraph := m.joinAlong other other.successors.keys

/-- Takes one predecessor of a node out of another graph, with its edge. -/
def pullHead (background : IndexedGraph) (current : NodeId) (m : IndexedGraph) (head : NodeId) :
    IndexedGraph :=
  copyEdge background (m.addNode head) head current

/-- Takes predecessors out of another graph, from the nodes of a stack on. The steps are bounded as
they are for plain graphs. -/
def pullFrom (background : IndexedGraph) :
    Nat → List NodeId → List NodeId → IndexedGraph → IndexedGraph
  | 0, _, _, m => m
  | _, _, [], m => m
  | steps + 1, seen, current :: stack, m =>
    if current ∈ seen then pullFrom background steps seen stack m
    else
      let heads := background.predecessorsOf current
      pullFrom background steps (current :: seen) (heads.reverse ++ stack)
        (heads.foldl (pullHead background current) m)

/-- Takes everything from which `start` can be reached out of another graph, with the edges on the
way. -/
def pullPredecessors (m : IndexedGraph) (start : NodeId) (background : IndexedGraph) :
    IndexedGraph :=
  pullFrom background (background.edgeCount + 1) [] [start] m

end IndexedGraph

end PackageVet

import PackageVet.Dot.Graph

/-! Graphs with the places of their nodes.

The nodes stand in an array, and an index says at which place the node of an id stands. A node that
is mentioned again is found by the index and changed where it stands. Without its index such a graph
is a plain one (`plain`). -/
namespace PackageVet.Dot

structure Node where
  id : String
  /-- Each key once. -/
  attributes : List (String × String) := []
  deriving DecidableEq, Repr

/-- The node with more attributes, each in the place of the one with its key, or at the end. -/
def Node.merge (node : Node) (attributes : List (String × String)) : Node :=
  { node with
    attributes := attributes.foldl (fun known e => Table.put e.1 e.2 known) node.attributes }

structure PlacedGraph where
  nodes : Array Node := #[]
  edges : List Edge := []
  places : Table String Nat := {}
  deriving DecidableEq, Repr

namespace PlacedGraph

/-- The graph without its index. -/
def plain (g : PlacedGraph) : Graph where
  nodes := ⟨g.nodes.toList.map fun node => (node.id, ⟨node.attributes⟩)⟩
  edges := g.edges

/-- The node of an id, found by its place. -/
def node? (g : PlacedGraph) (id : String) : Option Node :=
  (g.places.get? id).bind fun place => g.nodes[place]?

/-- The place of a node, at the end if it is new, and the graph with it. -/
def touch (g : PlacedGraph) (id : String) : Nat × PlacedGraph :=
  match g.places.get? id with
  | some place => (place, g)
  | none =>
    (g.nodes.size,
      { g with
        nodes := g.nodes.push { id }
        places := g.places.insert id g.nodes.size })

/-- A node statement. -/
def addNode (g : PlacedGraph) (id : String) (attributes : List (String × String)) : PlacedGraph :=
  let (place, g) := g.touch id
  { g with nodes := g.nodes.modify place fun node => node.merge attributes }

/-- One edge and its two ends. -/
def addEdge (g : PlacedGraph) (source target : String) (attributes : List (String × String)) :
    PlacedGraph :=
  let g := ((g.touch source).2.touch target).2
  { g with edges := g.edges ++ [{ source, target, attributes }] }

/-- An edge for each two neighbours of a chain. -/
def addChain (g : PlacedGraph) (attributes : List (String × String)) : List String → PlacedGraph
  | source :: target :: rest =>
    (g.addEdge source target attributes).addChain attributes (target :: rest)
  | _ => g

/-- A statement of one id is a node, of several a chain of edges. -/
def addStatement (g : PlacedGraph) (ids : List String) (attributes : List (String × String)) :
    PlacedGraph :=
  match ids with
  | [id] => g.addNode id attributes
  | ids => g.addChain attributes ids

end PlacedGraph

end PackageVet.Dot

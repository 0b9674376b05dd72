import PackageVet.Table

/-! Attributed multigraphs, as a DOT text gives them.

Nodes keep the order in which they first appear, in a statement of their own or as an end of an
edge. A node has each attribute once, with the value given last, at the place where its key first
appeared; an edge keeps its attributes as they are written. -/
namespace PackageVet.Dot

structure Edge where
  source : String
  target : String
  attributes : List (String × String)
  deriving DecidableEq, Repr

structure Graph where
  nodes : Table String (Table String String) := {}
  edges : List Edge := []
  deriving DecidableEq, Repr

namespace Graph

def attributes? (g : Graph) (id : String) : Option (Table String String) := g.nodes.get? id

/-- The value of a node's attribute. -/
def attribute? (g : Graph) (id key : String) : Option String :=
  (g.attributes? id).bind fun attributes => attributes.get? key

def isEmpty (g : Graph) : Bool := g.nodes.entries.isEmpty

/-- The graph with a node, whose attributes are kept if it is known. -/
def touch (g : Graph) (id : String) : Graph :=
  if g.nodes.contains id then g else { g with nodes := g.nodes.insert id {} }

/-- A node statement. -/
def addNode (g : Graph) (id : String) (attributes : List (String × String)) : Graph :=
  let known := (g.attributes? id).getD {}
  let table := attributes.foldl (fun table (key, value) => table.insert key value) known
  { g with nodes := g.nodes.insert id table }

/-- One edge and its two ends. -/
def addEdge (g : Graph) (source target : String) (attributes : List (String × String)) : Graph :=
  let g := (g.touch source).touch target
  { g with edges := g.edges ++ [{ source, target, attributes }] }

/-- An edge for each two neighbours of a chain. -/
def addChain (g : Graph) (attributes : List (String × String)) : List String → Graph
  | source :: target :: rest =>
    (g.addEdge source target attributes).addChain attributes (target :: rest)
  | _ => g

/-- A statement of one id is a node, of several a chain of edges. -/
def addStatement (g : Graph) (ids : List String) (attributes : List (String × String)) : Graph :=
  match ids with
  | [id] => g.addNode id attributes
  | ids => g.addChain attributes ids

end Graph

/-- The value of an edge's attribute, the first of several. -/
def Edge.attribute? (e : Edge) (key : String) : Option String :=
  e.attributes.lookup key

end PackageVet.Dot

import PackageVet.Dot.Reader
import PackageVet.Edges
import PackageVet.Sorted
import PackageVet.Text.Blank
import PackageVet.Text.Decimal

/-! The graph of all the code of a package.

A node is a piece of code with its attributes; an edge says that one node is a child of another in
the tree of the code, an argument of it, or what it calls. Only nodes with a number for a name are
taken from an export, and only edges with a value of a known kind.

The graph also hands out fresh ids, counting on from the greatest id it has seen in machine words:
after the last of them it starts again from nought. -/
namespace PackageVet

inductive CodeEdgeKind where
  | child
  | argument
  | call
  deriving DecidableEq, Repr

def CodeEdgeKind.ofLabel? (label : String) : Option CodeEdgeKind :=
  if label = "AST" then some .child
  else if label = "ARGUMENT" then some .argument
  else if label = "CALL" then some .call
  else none

/-- The number of a node named by a text. -/
def nodeId? (text : String) : Option NodeId := Text.readUnsigned Text.wordMax text.toList

/-- A line or a column written in an attribute. -/
def position? (text : String) : Option Nat :=
  Text.readUnsigned Text.wordMax (Text.trim text.toList)

structure CodeNode where
  id : NodeId
  kind : String
  attributes : Table String String := {}
  deriving DecidableEq, Repr

namespace CodeNode

def attribute? (n : CodeNode) (key : String) : Option String := n.attributes.get? key

def code? (n : CodeNode) : Option String := n.attribute? "CODE"

def name? (n : CodeNode) : Option String := n.attribute? "NAME"

def line? (n : CodeNode) : Option Nat := (n.attribute? "LINE_NUMBER").bind position?

def column? (n : CodeNode) : Option Nat := (n.attribute? "COLUMN_NUMBER").bind position?

def methodFullName? (n : CodeNode) : Option String := n.attribute? "METHOD_FULL_NAME"

/-- A place among siblings; nodes without one come last. -/
def place (n : CodeNode) (key : String) : Int :=
  ((n.attribute? key).bind fun text =>
    Text.readSigned Text.signedMin Text.signedMax (Text.trim text.toList)).getD Text.signedMax

end CodeNode

structure CodeGraph where
  nodes : Table NodeId CodeNode := {}
  edges : Edges (List CodeEdgeKind) := {}
  /-- The greatest id seen or handed out. -/
  lastId : NodeId := 0
  deriving Repr

namespace CodeGraph

def empty : CodeGraph := {}

def insertNode (g : CodeGraph) (node : CodeNode) : CodeGraph :=
  { g with nodes := g.nodes.insert node.id node, lastId := max g.lastId node.id }

def insertEdge (g : CodeGraph) (source target : NodeId) (kind : CodeEdgeKind) : CodeGraph :=
  let kinds := (g.edges.get? (source, target)).getD []
  if kind ∈ kinds then g
  else { g with edges := g.edges.insert (source, target) (kinds ++ [kind]) }

def insertDotNode (g : CodeGraph) (name : String) (attributes : Table String String) : CodeGraph :=
  match nodeId? name with
  | none => g
  | some id => g.insertNode
      { id, kind := (attributes.get? "label").getD "", attributes := attributes.erase "label" }

/-- The kinds named by the values on an edge, whatever their keys. -/
def insertDotEdge (g : CodeGraph) (edge : Dot.Edge) : CodeGraph :=
  match nodeId? edge.source, nodeId? edge.target with
  | some source, some target =>
    (edge.attributes.filterMap fun (_, value) => CodeEdgeKind.ofLabel? value).foldl
      (fun g kind => g.insertEdge source target kind) g
  | _, _ => g

def ofDot (graph : Dot.Graph) : CodeGraph :=
  let g := graph.nodes.entries.foldl
    (fun g (name, attributes) => g.insertDotNode name attributes) {}
  graph.edges.foldl insertDotEdge g

def parse (text : String) : Except Dot.Error CodeGraph := (Dot.Graph.parse text).map ofDot

def node? (g : CodeGraph) (id : NodeId) : Option CodeNode := g.nodes.get? id

def size (g : CodeGraph) : Nat := g.nodes.size

/-- The nodes to which a node has an edge of a kind, in the order of the edges. -/
def targets (g : CodeGraph) (id : NodeId) (kind : CodeEdgeKind) : List CodeNode :=
  g.edges.entries.filterMap fun ((source, target), kinds) =>
    if source = id ∧ kind ∈ kinds then g.node? target else none

/-- The targets in the order of an attribute. -/
def sortedTargets (g : CodeGraph) (id : NodeId) (kind : CodeEdgeKind) (key : String) :
    List CodeNode :=
  Sorted.orderBy (fun node => node.place key) (g.targets id kind)

def children (g : CodeGraph) (id : NodeId) : List CodeNode := g.sortedTargets id .child "ORDER"

def arguments (g : CodeGraph) (id : NodeId) : List CodeNode :=
  g.sortedTargets id .argument "ARGUMENT_INDEX"

def callTarget? (g : CodeGraph) (id : NodeId) : Option CodeNode := (g.targets id .call).head?

/-- A fresh id, and the graph that has handed it out. -/
def freshId (g : CodeGraph) : NodeId × CodeGraph :=
  let id := (g.lastId + 1) % (Text.wordMax + 1)
  (id, { g with lastId := id })

end CodeGraph

end PackageVet

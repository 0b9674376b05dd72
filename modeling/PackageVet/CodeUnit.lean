import PackageVet.Arena
import PackageVet.CodeGraph
import PackageVet.Text.Cut

/-! Units of code and how one flows into another.

A unit is the top level of a file, a function with a name, or a function without one. Its edges
say where control and data go, each with the tags that the export gave it. Nothing flows into the
end of a unit: edges into a node of kind METHOD_RETURN are left out. -/
namespace PackageVet

inductive UnitKind where
  | program
  | lambda
  | function
  deriving DecidableEq, Repr

/-- Whether a name stands for a function without one. -/
def isLambdaName (name : String) : Bool := Text.contains name "<lambda>"

def UnitKind.ofName (name : String) : UnitKind :=
  if name = ":program" then .program else if isLambdaName name then .lambda else .function

/-- An edge carries data when one of its tags says so. -/
def EdgeKind.ofTags (tags : List String) : EdgeKind :=
  if tags.any fun tag => Text.contains tag "DDG" then .data else .control

structure CodeUnit where
  id : NodeId
  name : String
  fullName : String
  file : String
  kind : UnitKind
  nodes : List NodeId := []
  edges : Edges (List String) := {}
  deriving Repr

namespace CodeUnit

def isProgram (u : CodeUnit) : Bool := u.kind = .program

def successors (u : CodeUnit) (id : NodeId) : List NodeId := u.edges.successors id

def predecessors (u : CodeUnit) (id : NodeId) : List NodeId := u.edges.predecessors id

def tags? (u : CodeUnit) (source target : NodeId) : Option (List String) :=
  u.edges.get? (source, target)

def edgeKind? (u : CodeUnit) (source target : NodeId) : Option EdgeKind :=
  (u.tags? source target).map EdgeKind.ofTags

/-! ### Reading a unit from an export -/

/-- An attribute of a node in the unit's export, or else in the graph of all code. -/
def attribute? (g : CodeGraph) (id : NodeId) (own : Table String String) (key : String) :
    Option String :=
  (own.get? key).orElse fun _ => (g.node? id).bind fun node => node.attribute? key

def positionOr (text? : Option String) : Nat := (text?.bind position?).getD unknownPosition

/-- One node of a unit. -/
def nodeOfDot (g : CodeGraph) (unit : NodeId) (file : String) (id : NodeId)
    (own : Table String String) : ProgramNode :=
  let known := g.node? id
  { id
    unit
    kind := ((own.get? "NODE_TYPE").orElse fun _ => known.map CodeNode.kind).getD "UNKNOWN"
    line := positionOr (attribute? g id own "LINE_NUMBER")
    column := positionOr (attribute? g id own "COLUMN_NUMBER")
    name? := attribute? g id own "NAME"
    code? := (known.bind CodeNode.code?).orElse fun _ => own.get? "CODE"
    file
    entrance := id = unit }

/-- The nodes of an export that have a number. -/
def readNodes (graph : Dot.Graph) (g : CodeGraph) (unit : NodeId) (file : String) :
    List ProgramNode :=
  graph.nodes.entries.filterMap fun node =>
    (nodeId? node.1).map fun id => nodeOfDot g unit file id node.2

/-- The tags of an edge: its label, or else every value but that of `key`. -/
def tagsOfDot (edge : Dot.Edge) : List String :=
  match edge.attribute? "label" with
  | some label => [label]
  | none => (edge.attributes.filter fun (key, _) => key ≠ "key").map Prod.snd

/-- One more edge; the tags of edges between the same nodes stand one after the other. -/
def addTags (edges : Edges (List String)) (source target : NodeId) (tags : List String) :
    Edges (List String) :=
  edges.insert (source, target) ((edges.get? (source, target)).getD [] ++ tags)

def edgesOfDot (graph : Dot.Graph) : Edges (List String) :=
  graph.edges.foldl (fun edges edge =>
    match nodeId? edge.source, nodeId? edge.target with
    | some source, some target => addTags edges source target (tagsOfDot edge)
    | _, _ => edges) {}

/-- The unit of an export, as yet without nodes and edges. There is none where the first node has no
number or no name, or where the code is not of a script file. -/
def headOfDot (graph : Dot.Graph) (g : CodeGraph) : Option CodeUnit := do
  let (first, own) ← graph.nodes.entries.head?
  let id ← nodeId? first
  let name ← attribute? g id own "NAME"
  let fullName := (attribute? g id own "FULL_NAME").getD ""
  let file := (attribute? g id own "FILENAME").getD ""
  if file = "<empty>" ∨ !Text.endsWith file ".js" then none
  else some { id, name, fullName, file, kind := .ofName name }

/-- The unit of an export, if it has one, and the arena with its nodes. -/
def ofDot (graph : Dot.Graph) (g : CodeGraph) (arena : Arena) : Option (CodeUnit × Arena) := do
  let u ← headOfDot graph g
  let nodes := readNodes graph g u.id u.file
  let arena := nodes.foldl Arena.insertNode arena
  let edges : Edges (List String) :=
    ⟨(edgesOfDot graph).entries.filter fun ((_, target), _) =>
      arena.kind target ≠ "METHOD_RETURN"⟩
  some ({ u with nodes := nodes.map ProgramNode.id, edges }, arena)

end CodeUnit

end PackageVet

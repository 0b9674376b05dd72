import PackageVet.Behavior

/-! Splitting of sensitive nodes, so that each has one category.

A node with several categories becomes a chain of nodes, linked by edges of data; the edges that
left the node leave the last one of the chain. -/
namespace PackageVet

/-- What splitting changes: a graph, the arena, and the graph of all code for its fresh ids. -/
structure Splitting where
  graph : BehaviorGraph
  arena : Arena
  code : CodeGraph

namespace Splitting

/-- A node like another, of one category. -/
def part (node : ProgramNode) (id : NodeId) (category : Category) : ProgramNode :=
  { id
    unit := node.unit
    kind := node.kind
    line := node.line
    column := node.column
    name? := node.name?
    code? := node.code?
    file := node.file
    callKind := node.callKind
    fullName := node.fullName
    derivation := node.derivation
    sensitivity := some [category] }

/-- Puts a node for each category behind the one that came before. -/
def extendChain (node : ProgramNode) : NodeId → List Category → Splitting → Splitting
  | _, [], s => s
  | previous, category :: rest, s =>
    let (id, code) := s.code.freshId
    let graph := ((s.graph.addNode id).moveOutEdges previous id).addEdge previous id ["DDG"]
    extendChain node id rest { graph, arena := s.arena.insertNode (part node id category), code }

/-- Splits one node. -/
def splitNode (s : Splitting) (id : NodeId) : Splitting :=
  match s.arena.get? id with
  | some node =>
    match node.categories with
    | first :: second :: rest =>
      let arena := s.arena.modify id fun n => n.markSensitive [first]
      extendChain node id (second :: rest) { s with arena }
    | _ => s
  | none => s

/-- Splits every node of the graph. -/
def splitAll (s : Splitting) : Splitting := s.graph.nodes.foldl splitNode s

end Splitting

end PackageVet

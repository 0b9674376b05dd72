import PackageVet.Error
import PackageVet.Reduced.Graph
import PackageVet.Reduced.Split

/-! Reducing a behaviour graph to its sensitive nodes.

From each sensitive node two searches set out, and both stop at the sensitive nodes they meet. The
first follows data along every path without a repeated node; the second follows any edge, and comes
to a node once. -/
namespace PackageVet.BehaviorGraph

/-- The category of a sensitive node of the graph. -/
def categoryOf? (g : BehaviorGraph) (arena : Arena) (id : NodeId) : Option Category :=
  if g.contains id then (arena.get? id).bind ProgramNode.category? else none

variable {m : Type → Type} [Monad m]

/-- Follows the data from a node that was reached from `start` over `path`, with a check at every
edge of data. The nodes of a path differ and each is the target of an edge, so a depth of the number
of edges suffices. -/
def dataFromM (g : BehaviorGraph) (check : m PUnit) (category? : NodeId → Option Category)
    (start : NodeId) : Nat → List NodeId → NodeId → ReducedGraph → m ReducedGraph
  | 0, _, _, r => pure r
  | depth + 1, path, current, r =>
    (g.successors current).foldlM (fun r next =>
      if g.edgeKind? current next ≠ some .data then pure r
      else do
        check
        if next = start ∨ next ∈ path then pure r
        else match category? next with
          | some category => pure ((r.addNode next category).addEdge start next .data path)
          | none => g.dataFromM check category? start depth (path ++ [next]) next r) r

/-- What a search over all edges has seen so far, and the graph it has made. -/
structure ControlSearch where
  seen : List NodeId
  reduced : ReducedGraph

/-- Comes to a node of a category. A way to it is recorded unless `start` is linked to it. -/
def ControlSearch.record (s : ControlSearch) (start next : NodeId) (category : Category)
    (path : List NodeId) : ControlSearch :=
  if (s.reduced.edge? start next).isSome then s
  else
    let reduced := s.reduced.addNode next category
    { s with reduced := reduced.addEdge start next .control path }

/-- Follows every edge from a node that was reached from `start` over `path`, with a check at every
node that is seen for the first time. -/
def controlFromM (g : BehaviorGraph) (check : m PUnit) (category? : NodeId → Option Category)
    (start : NodeId) : Nat → List NodeId → NodeId → ControlSearch → m ControlSearch
  | 0, _, _, s => pure s
  | depth + 1, path, current, s =>
    (g.successors current).foldlM (fun s next =>
      if next ∈ s.seen then pure s
      else do
        check
        let s := { s with seen := next :: s.seen }
        match category? next with
          | some category => pure (s.record start next category path)
          | none => g.controlFromM check category? start depth (path ++ [next]) next s) s

/-- Both searches from one sensitive node. -/
def searchFromM (g : BehaviorGraph) (check : m PUnit) (category? : NodeId → Option Category)
    (start : NodeId) (category : Category) (r : ReducedGraph) : m ReducedGraph := do
  let depth := g.edgeCount + 1
  let r ← g.dataFromM check category? start depth [] start (r.addNode start category)
  let s ← g.controlFromM check category? start depth [] start { seen := [start], reduced := r }
  return s.reduced

/-- The reduced graph of a graph whose nodes have one category at most, with the checks of its
searches. -/
def reducedM (g : BehaviorGraph) (check : m PUnit) (arena : Arena) : m ReducedGraph :=
  g.nodes.foldlM (fun r start =>
    match g.categoryOf? arena start with
    | some category => g.searchFromM check (g.categoryOf? arena) start category r
    | none => pure r) {}

/-! ### Searches without a check -/

def dataFrom (g : BehaviorGraph) (category? : NodeId → Option Category) (start : NodeId)
    (depth : Nat) (path : List NodeId) (current : NodeId) (r : ReducedGraph) : ReducedGraph :=
  Id.run (g.dataFromM (pure ⟨⟩) category? start depth path current r)

def controlFrom (g : BehaviorGraph) (category? : NodeId → Option Category) (start : NodeId)
    (depth : Nat) (path : List NodeId) (current : NodeId) (s : ControlSearch) : ControlSearch :=
  Id.run (g.controlFromM (pure ⟨⟩) category? start depth path current s)

def searchFrom (g : BehaviorGraph) (category? : NodeId → Option Category) (start : NodeId)
    (category : Category) (r : ReducedGraph) : ReducedGraph :=
  Id.run (g.searchFromM (pure ⟨⟩) category? start category r)

def reduced (g : BehaviorGraph) (arena : Arena) : ReducedGraph :=
  Id.run (g.reducedM (pure ⟨⟩) arena)

/-- The reduced graph, unless the time is used up on the way. -/
def reduce {σ : Type} (g : BehaviorGraph) (arena : Arena) (deadline : Deadline σ) :
    Effect AnalysisError σ ReducedGraph :=
  g.reducedM deadline.check arena

end PackageVet.BehaviorGraph

import PackageVet.CodeUnit

/-! Behaviour graphs.

A behaviour graph starts at an entrance and shows where control and data go from there, through
the units that were put in at calls. Nodes keep the order in which they were added; an edge has
each of its tags once; edges may lead from or to ids that are not nodes of the graph. -/
namespace PackageVet

/-- The tags of a list that another does not have, put after it. -/
def mergeTags (known : List String) (tags : List String) : List String :=
  tags.foldl (fun known tag => if tag ∈ known then known else known ++ [tag]) known

theorem mergeTags_nodup {known : List String} (tags : List String) (h : known.Nodup) :
    (mergeTags known tags).Nodup := by
  induction tags generalizing known with
  | nil => exact h
  | cons tag rest ih =>
    show (mergeTags (if tag ∈ known then known else known ++ [tag]) rest).Nodup
    apply ih
    split
    · exact h
    · next hn =>
      rw [List.nodup_append]
      refine ⟨h, by simp, ?_⟩
      intro a ha b hb
      rw [List.mem_singleton] at hb
      exact fun hab => hn (hb ▸ hab ▸ ha)

structure BehaviorGraph where
  entrance : NodeId
  returns : List NodeId := []
  nodes : List NodeId := []
  edges : Edges (List String) := {}
  deriving DecidableEq, Repr

namespace BehaviorGraph

instance : Inhabited BehaviorGraph := ⟨{ entrance := 0 }⟩

def contains (g : BehaviorGraph) (id : NodeId) : Bool := id ∈ g.nodes

def addNode (g : BehaviorGraph) (id : NodeId) : BehaviorGraph :=
  if id ∈ g.nodes then g else { g with nodes := g.nodes ++ [id] }

def addReturn (g : BehaviorGraph) (id : NodeId) : BehaviorGraph :=
  if id ∈ g.returns then g else { g with returns := g.returns ++ [id] }

def tags? (g : BehaviorGraph) (source target : NodeId) : Option (List String) :=
  g.edges.get? (source, target)

def hasEdge (g : BehaviorGraph) (source target : NodeId) : Bool := (g.tags? source target).isSome

def edgeKind? (g : BehaviorGraph) (source target : NodeId) : Option EdgeKind :=
  (g.tags? source target).map EdgeKind.ofTags

def successors (g : BehaviorGraph) (id : NodeId) : List NodeId := g.edges.successors id

def predecessors (g : BehaviorGraph) (id : NodeId) : List NodeId := g.edges.predecessors id

def edgeCount (g : BehaviorGraph) : Nat := g.edges.size

/-- The edge, with the tags that it does not have yet. -/
def addEdge (g : BehaviorGraph) (source target : NodeId) (tags : List String) : BehaviorGraph :=
  let known := (g.tags? source target).getD []
  { g with edges := g.edges.insert (source, target) (mergeTags known tags) }

/-- The edge with these tags, if the two are not linked yet. -/
def ensureEdge (g : BehaviorGraph) (source target : NodeId) (tags : List String) : BehaviorGraph :=
  if g.hasEdge source target then g else g.addEdge source target tags

/-- Makes one edge start from another node. -/
def moveEdge (origin heir : NodeId) (g : BehaviorGraph) (target : NodeId) : BehaviorGraph :=
  let tags := (g.tags? origin target).getD []
  let g := { g with edges := g.edges.erase (origin, target) }
  g.addEdge heir target tags

/-- Makes every edge that starts at a node start at another, with its tags. -/
def moveOutEdges (g : BehaviorGraph) (origin heir : NodeId) : BehaviorGraph :=
  (g.successors origin).foldl (moveEdge origin heir) g

/-- The sources of edges that are no nodes, in the order of their first edges. -/
def outsideSources (g : BehaviorGraph) : List NodeId :=
  (g.edges.keys.map Prod.fst).foldl
    (fun sources id => if id ∈ g.nodes ∨ id ∈ sources then sources else sources ++ [id]) []

/-- The edges of a graph, source by source, the nodes first. -/
def edgesBySource (g : BehaviorGraph) : List ((NodeId × NodeId) × List String) :=
  (g.nodes ++ g.outsideSources).flatMap fun source =>
    g.edges.entries.filter fun e => e.1.1 = source

/-- The union with another graph, unless that one's entrance is already here. -/
def join (g other : BehaviorGraph) : BehaviorGraph :=
  if g.contains other.entrance then g
  else
    let g := other.nodes.foldl addNode g
    other.edgesBySource.foldl (fun g ((source, target), tags) => g.addEdge source target tags) g

/-- Takes one predecessor of a node out of another graph, with its edge. -/
def pullHead (background : BehaviorGraph) (current : NodeId) (g : BehaviorGraph) (head : NodeId) :
    BehaviorGraph :=
  (g.addNode head).addEdge head current ((background.tags? head current).getD [])

/-- Takes predecessors out of another graph, from the nodes of a stack on; of a node already seen
they have been taken. Each step takes one node off the stack, and an edge of the background puts
one node on it once, so the steps are bounded by its edges. -/
def pullFrom (background : BehaviorGraph) :
    Nat → List NodeId → List NodeId → BehaviorGraph → BehaviorGraph
  | 0, _, _, g => g
  | _, _, [], g => g
  | steps + 1, seen, current :: stack, g =>
    if current ∈ seen then pullFrom background steps seen stack g
    else
      let heads := background.predecessors current
      pullFrom background steps (current :: seen) (heads.reverse ++ stack)
        (heads.foldl (pullHead background current) g)

/-- Takes everything from which `start` can be reached out of another graph, with the edges on the
way. -/
def pullPredecessors (g : BehaviorGraph) (start : NodeId) (background : BehaviorGraph) :
    BehaviorGraph :=
  pullFrom background (background.edgeCount + 1) [] [start] g

end BehaviorGraph

end PackageVet

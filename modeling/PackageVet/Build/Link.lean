import PackageVet.Behavior

/-! The edges that a build puts between nodes. -/
namespace PackageVet

/-- The tags of the edge over which a walk came to a node. -/
def CodeUnit.incomingTags (u : CodeUnit) (former : Option NodeId) (current : NodeId) :
    List String :=
  (former.bind fun former => u.tags? former current).getD []

namespace BehaviorGraph

/-- An edge from the node that a walk came from, if it came from one. -/
def linkFrom (g : BehaviorGraph) (former : Option NodeId) (current : NodeId) (tags : List String) :
    BehaviorGraph :=
  match former with
  | some former => g.addEdge former current tags
  | none => g

/-- The edge over which a walk came to a node. -/
def linkIncoming (g : BehaviorGraph) (u : CodeUnit) (former : Option NodeId) (current : NodeId) :
    BehaviorGraph :=
  g.linkFrom former current (u.incomingTags former current)

/-- An edge from the node that declared a name to a node that uses it, with the unit's tags for
the two where it has some. -/
def linkName (g : BehaviorGraph) (u : CodeUnit) (source : Option NodeId) (current : NodeId)
    (name : String) : BehaviorGraph :=
  match source with
  | some source =>
    g.addEdge source current ((u.tags? source current).getD ["DDG: " ++ name])
  | none => g

/-- Edges from some returned values to a node. -/
def linkReturns (g : BehaviorGraph) (returns : List NodeId) (target : NodeId) (tags : List String) :
    BehaviorGraph :=
  returns.foldl (fun g value => g.addEdge value target tags) g

/-- The nodes that a call returns from, where a unit was put in at it. -/
def returnsOf (source : ProgramNode) : List NodeId :=
  match source.callee with
  | some link => link.returns
  | none => []

/-- Data that a call passes on comes from what its callee returns, or from the call itself where
nothing is returned. -/
def substituteReturns (g : BehaviorGraph) (source : ProgramNode) (target : NodeId)
    (tags : List String) : BehaviorGraph :=
  match returnsOf source with
  | [] => g.addEdge source.id target tags
  | returns =>
    g.linkReturns returns target (if EdgeKind.ofTags tags = .data then tags else ["DDG"])

/-- As `substituteReturns` for a call into a unit that was put in; any other node passes its data
on itself. -/
def linkResolved (g : BehaviorGraph) (source : ProgramNode) (target : NodeId) (tags : List String) :
    BehaviorGraph :=
  if source.hasResolvedCallee then g.substituteReturns source target tags
  else g.addEdge source.id target tags

end BehaviorGraph

end PackageVet

import PackageVet.Arena
import PackageVet.Error
import PackageVet.Pattern
import PackageVet.Reduced.Graph
import PackageVet.Report

/-! Matches of patterns in a reduced graph.

A match gives each category of a pattern a node of its own, so that every triple has a way between
its two nodes: for data a way of data alone, for control any way. -/
namespace PackageVet

/-! ### Ways -/

/-- How far a search for a node has come. -/
inductive Reach where
  /-- The nodes left out on the way that was found. -/
  | found (witness : List NodeId)
  | searched (seen : List NodeId)
  deriving DecidableEq, Repr

namespace ReducedGraph

/-- Whether an edge can be part of a way of a kind. -/
def follows (r : ReducedGraph) (kind : EdgeKind) (source target : NodeId) : Bool :=
  kind = .control || ((r.edge? source target).map ReducedEdge.kind) = some .data

def elided (r : ReducedGraph) (source target : NodeId) : List NodeId :=
  ((r.edge? source target).map ReducedEdge.elided).getD []

/-- Searches on from a node; `witness` are the nodes left out on the way to it. Every step down
sees a node for the first time, so a depth of the number of edges suffices. -/
def reachFrom (r : ReducedGraph) (tail : NodeId) (kind : EdgeKind) :
    Nat → List NodeId → NodeId → List NodeId → Reach
  | 0, _, _, seen => .searched seen
  | depth + 1, witness, current, seen =>
    (r.successors current).foldl (fun reach next =>
      match reach with
      | .found witness => .found witness
      | .searched seen =>
        if !r.follows kind current next then .searched seen
        else
          let witness := witness ++ r.elided current next
          if next = tail then .found witness
          else if next ∈ seen then .searched seen
          else r.reachFrom tail kind depth witness next (next :: seen)) (.searched seen)

/-- The nodes left out on a way of one edge or more, if there is one. -/
def reachable? (r : ReducedGraph) (head tail : NodeId) (kind : EdgeKind) : Option (List NodeId) :=
  match r.reachFrom tail kind (r.edgeCount + 1) [] head [head] with
  | .found witness => some witness
  | .searched _ => none

end ReducedGraph

/-! ### Matches -/

structure Mapping where
  nodes : List (Category × NodeId)
  /-- Nodes left out on the ways of the triples, each once. -/
  elided : List NodeId := []
  deriving DecidableEq, Repr

def Mapping.node? (m : Mapping) (category : Category) : Option NodeId := m.nodes.lookup category

/-- Tries all choices of one candidate each, different from those before, and adds what comes of the
full ones to `found`. There is a check at every candidate that is tried. -/
def chooseM {m : Type → Type} [Monad m] {α : Type} (check : m PUnit)
    (accept? : List NodeId → Option α) :
    List (List NodeId) → List NodeId → List α → m (List α)
  | [], assigned, found => pure (found ++ (accept? assigned).toList)
  | candidates :: rest, assigned, found =>
    candidates.foldlM (fun found id =>
      if id ∈ assigned then pure found
      else do
        check
        chooseM check accept? rest (assigned ++ [id]) found) found

namespace Pattern

/-- The nodes left out on the way of one triple, if there is one. -/
def wayOf? (r : ReducedGraph) (nodes : List (Category × NodeId)) (t : Triple) :
    Option (List NodeId) := do
  r.reachable? (← nodes.lookup t.head) (← nodes.lookup t.tail) t.kind

/-- The nodes left out on the ways of all triples, if every one has a way. -/
def satisfied? (p : Pattern) (r : ReducedGraph) (nodes : List (Category × NodeId)) :
    Option (List NodeId) :=
  p.triples.foldlM (fun elided t => (wayOf? r nodes t).map (mergeIds elided)) []

def candidates (p : Pattern) (r : ReducedGraph) : List (List NodeId) :=
  p.categories.map r.nodesWith

/-- The match of an assignment of nodes to the categories, if every triple has a way. -/
def mapping? (p : Pattern) (r : ReducedGraph) (assigned : List NodeId) : Option Mapping :=
  let nodes := p.categories.zip assigned
  (p.satisfied? r nodes).map fun elided => { nodes, elided }

/-- All matches, with the checks on the way to them. Nothing is tried where a category has no
candidate. -/
def matchesInM {m : Type → Type} [Monad m] (p : Pattern) (check : m PUnit) (r : ReducedGraph) :
    m (List Mapping) :=
  if (p.candidates r).any List.isEmpty then pure []
  else chooseM check (p.mapping? r) (p.candidates r) [] []

/-- All matches. -/
def matchesIn (p : Pattern) (r : ReducedGraph) : List Mapping :=
  Id.run (p.matchesInM (pure ⟨⟩) r)

/-- All matches, unless the time is used up on the way. -/
def findMatches {σ : Type} (p : Pattern) (r : ReducedGraph) (deadline : Deadline σ) :
    Effect AnalysisError σ (List Mapping) :=
  p.matchesInM deadline.check r

/-- The lines of a match. Those of the nodes left out belong to a pattern of more than one
category. -/
def locality (p : Pattern) (m : Mapping) (arena : Arena) : Locality :=
  let ids := m.nodes.map Prod.snd ++ if p.isSingle then [] else m.elided
  (ids.filterMap arena.get?).foldl (fun lines node =>
    if node.line = unknownPosition ∨ node.file = "" then lines
    else Sorted.upsert node.file (fun known => Sorted.insert node.line (known.getD [])) lines) []

end Pattern

/-! ### Findings -/

/-- Decides whether a match is kept. -/
abbrev Keeper (σ : Type) := Pattern → Mapping → Arena → Report → Effect AnalysisError σ Bool

/-- How far looking for patterns has come. -/
structure Matched where
  report : Report
  /-- The patterns that had matches. -/
  matched : List Pattern := []
  /-- The number of findings added. -/
  added : Nat := 0

namespace Matched

/-- Records a match that is kept. -/
def record (s : Matched) (phase : Phase) (arena : Arena) (p : Pattern) (m : Mapping) : Matched :=
  let (added, report) := s.report.addFinding phase p.behavior
    { description := p.description, lines := p.locality m arena }
  { s with
    report := { report with malicious := true }
    added := if added then s.added + 1 else s.added }

end Matched

/-- A step of looking for patterns. What it has come to so far stays when it fails. -/
abbrev Looking (σ α : Type) : Type := Effect AnalysisError (Matched × σ) α

namespace Looking
variable {σ : Type}

def state : Looking σ Matched := do return (← get).1

def change (f : Matched → Matched) : Looking σ PUnit :=
  modify fun (s, services) => (f s, services)

/-- Records a match, if it is kept. -/
def judge (arena : Arena) (keep : Keeper σ) (phase : Phase) (deadline : Deadline σ) (p : Pattern)
    (m : Mapping) : Looking σ PUnit := do
  deadline.check.onSecond
  if ← (keep p m arena (← state).report).onSecond then change fun s => s.record phase arena p m

/-- Looks for one pattern, unless a pattern that had matches asks for all that it asks for. -/
def search (r : ReducedGraph) (arena : Arena) (keep : Keeper σ) (phase : Phase)
    (deadline : Deadline σ) (p : Pattern) : Looking σ PUnit := do
  if (r.nodesWith p.head).isEmpty || (← state).matched.any p.isSubsumedBy then pure ⟨⟩
  else
    let mappings ← (p.findMatches r deadline).onSecond
    if mappings.isEmpty then pure ⟨⟩
    else
      change fun s => { s with matched := s.matched ++ [p] }
      mappings.forM (judge arena keep phase deadline p)

end Looking

/-- Looks for all patterns in turn and records the matches that are kept. -/
def matchPatterns {σ : Type} (library : List Pattern) (r : ReducedGraph) (arena : Arena)
    (keep : Keeper σ) (phase : Phase) (deadline : Deadline σ) : Looking σ PUnit :=
  if r.isEmpty then pure ⟨⟩ else library.forM (Looking.search r arena keep phase deadline)

end PackageVet

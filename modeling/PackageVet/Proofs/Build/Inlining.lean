import PackageVet.Proofs.Build.Sample

/-! What is put in at a call stays whole.

While a walk visits a call for the first time, up to two graphs are put in at it: that of what is
called, and that of a function given as the last argument (`Inserts`). The call is linked to the
entrance of each, and each is part of what is built, unless its entrance was in the graph already
(`build_contains_inlined`).

Where it was, the graph is left out, and a second call of a function can show less than what that
call runs (`second_call_cut_short`). -/
namespace PackageVet.Building
open BehaviorGraph

variable {σ : Type} {c : BuildContext σ} {nested : Nested σ} {u : CodeUnit}

/-- Whether a walk comes to a call for the first time. -/
structure VisitsCall (m : Moment σ) (call : NodeId) (former : Option NodeId) (node : ProgramNode) :
    Prop where
  top : m.stack.head? = some (call, former)
  first : call ∉ m.visited
  known : m.state.arena.get? call = some node
  inside : node.entrance = false
  kind : node.kind = "CALL"

/-- Whether a walk, at a moment, puts a graph into the one that it has built: the unit to be put in
was found out, and its graph was built. -/
inductive Inserts (c : BuildContext σ) (nested : Nested σ) (u : CodeUnit) (m : Moment σ)
    (call : NodeId) : (into : BehaviorGraph) → Inlining → (graph : BehaviorGraph) → Prop where
  /-- What is called. -/
  | called {former : Option NodeId} {node : ProgramNode} {into graph : BehaviorGraph}
      {i : Inlining} {x : σ} {s after : BuildState × σ} :
      VisitsCall m call former node → InTime c m.services x →
      (operation c u node former (m.graph.addNode call)).run (m.state, x) =
        (.ok (into, some i), s) →
      (nested i.unit.id).run (i.enter s.1, s.2) = (.ok graph, after) →
      Inserts c nested u m call into i graph
  /-- A function given as an argument. -/
  | argument {former : Option NodeId} {node : ProgramNode} {g into graph : BehaviorGraph}
      {called? : Option Inlining} {i : Inlining} {x : σ} {s₁ s₂ after : BuildState × σ} :
      VisitsCall m call former node → InTime c m.services x →
      (operation c u node former (m.graph.addNode call)).run (m.state, x) =
        (.ok (g, called?), s₁) →
      (putIn nested call g called?).run s₁ = (.ok into, s₂) →
      lambdaArgument? c node = some i →
      (nested i.unit.id).run (i.enter s₂.1, s₂.2) = (.ok graph, after) →
      Inserts c nested u m call into i graph

/-! ### One unit -/

/-- What putting a unit in leaves: the call is linked to the graph that was built for the unit, and
the graph is noted at the call. -/
theorem putIn_eq_ok {call : NodeId} {g g' : BehaviorGraph} {i : Inlining} {s s' : BuildState × σ}
    (h : (putIn nested call g (some i)).run s = (.ok g', s')) :
    ∃ graph after, (nested i.unit.id).run (i.enter s.1, s.2) = (.ok graph, after) ∧
      g' = (g.addEdge call graph.entrance [i.tag]).join graph ∧
      s' = ((i.leave after.1).updateNode call (i.note graph), after.2) := by
  unfold putIn at h
  obtain ⟨_, s₁, henter, h⟩ := Effect.run_bind_eq_ok.mp h
  cases henter
  obtain ⟨graph, s₂, hgraph, h⟩ := Effect.run_bind_eq_ok.mp h
  obtain ⟨_, s₃, hnote, h⟩ := Effect.run_bind_eq_ok.mp h
  cases hnote
  obtain ⟨rfl, rfl⟩ := Effect.run_pure_eq_ok.mp h
  rw [run_restoring] at hgraph
  obtain ⟨hok, rfl⟩ := Prod.mk.inj hgraph
  exact ⟨graph, _, Prod.ext hok rfl, rfl, rfl⟩

/-- A unit cannot be put in where its own build fails, and then only what was opened is closed. -/
theorem putIn_eq_error {call : NodeId} {g : BehaviorGraph} {i : Inlining} {s s' : BuildState × σ}
    {e : AnalysisError} (h : (putIn nested call g (some i)).run s = (.error e, s')) :
    ∃ after, (nested i.unit.id).run (i.enter s.1, s.2) = (.error e, after) ∧
      s' = (i.leave after.1, after.2) := by
  have hsplit : (putIn nested call g (some i)).run s =
      (restoring (nested i.unit.id) i.leave >>= fun graph => do
        change fun s => s.updateNode call (i.note graph)
        return (g.addEdge call graph.entrance [i.tag]).join graph).run (i.enter s.1, s.2) := rfl
  rw [hsplit, Effect.run_bind, run_restoring] at h
  rcases hrun : (nested i.unit.id).run (i.enter s.1, s.2) with ⟨e' | graph, after⟩
  all_goals rw [hrun] at h
  · cases h
    exact ⟨after, rfl, rfl⟩
  · cases h

/-- The graph that is put in is the one that was built for the unit. -/
theorem run_putIn {call : NodeId} {g g' graph : BehaviorGraph} {i : Inlining}
    {s s' after : BuildState × σ}
    (h : (putIn nested call g (some i)).run s = (.ok g', s'))
    (hgraph : (nested i.unit.id).run (i.enter s.1, s.2) = (.ok graph, after)) :
    g' = (g.addEdge call graph.entrance [i.tag]).join graph := by
  obtain ⟨graph', after', hgraph', hput, -⟩ := putIn_eq_ok h
  cases hgraph.symm.trans hgraph'
  exact hput

/-- A graph that is put in is linked, and is part of the result if its entrance is new. -/
theorem partOf_putIn (g graph : BehaviorGraph) (call : NodeId) (tag : String) :
    ((g.addEdge call graph.entrance [tag]).join graph).hasEdge call graph.entrance = true ∧
    (graph.entrance ∉ g.nodes →
      graph.PartOf ((g.addEdge call graph.entrance [tag]).join graph)) := by
  constructor
  · have hedge : (g.addEdge call graph.entrance [tag]).Leads .control call graph.entrance :=
      leads_addEdge_self (EdgeKind.control_admits _)
    exact hasEdge_iff_leads.mpr ((partOf_join_left _ graph).leads hedge)
  · exact fun hnew => partOf_join_right hnew

/-- The parts of the first visit of a call. -/
theorem run_firstVisit_call {call : NodeId} {former : Option NodeId} {g g' : BehaviorGraph}
    {node : ProgramNode} {s : BuildState} {services : σ} {after : BuildState × σ}
    (hnode : s.arena.get? call = some node) (hentrance : node.entrance = false)
    (hkind : node.kind = "CALL")
    (h : (firstVisit c nested u call former g).run (s, services) = (.ok g', after)) :
    ∃ g₁ called? s₁ g₂ s₂,
      (operation c u node former g).run (s, services) = (.ok (g₁, called?), s₁) ∧
      (putIn nested call g₁ called?).run s₁ = (.ok g₂, s₂) ∧
      (putIn nested call g₂ (lambdaArgument? c node)).run s₂ = (.ok g', after) := by
  unfold firstVisit at h
  obtain ⟨node?, s₁, hread, h⟩ := Effect.run_bind_eq_ok.mp h
  cases hread
  rw [hnode] at h
  simp only [hentrance, hkind] at h
  obtain ⟨⟨g₁, called?⟩, s₁, hop, h⟩ := Effect.run_bind_eq_ok.mp h
  obtain ⟨g₂, s₂, hput, h⟩ := Effect.run_bind_eq_ok.mp h
  exact ⟨g₁, called?, s₁, g₂, s₂, hop, hput, h⟩

/-! ### Whole builds -/

/-- The parts of a step that visits a call. -/
theorem VisitsCall.parts {m m' : Moment σ} {call : NodeId} {former : Option NodeId}
    {node : ProgramNode} (hvisit : VisitsCall m call former node) (hgoes : Goes c nested u m m') :
    ∃ x g₁ called? s₁ g₂ s₂, InTime c m.services x ∧
      (operation c u node former (m.graph.addNode call)).run (m.state, x) =
        (.ok (g₁, called?), s₁) ∧
      (putIn nested call g₁ called?).run s₁ = (.ok g₂, s₂) ∧
      (putIn nested call g₂ (lambdaArgument? c node)).run s₂ =
        (.ok m'.graph, m'.state, m'.services) := by
  obtain ⟨htop, hfirst, hknown, hinside, hkind⟩ := hvisit
  cases hgoes with
  | first _ htime hrun =>
    cases htop
    obtain ⟨g₁, called?, s₁, g₂, s₂, hparts⟩ := run_firstVisit_call hknown hinside hkind hrun
    exact ⟨_, g₁, called?, s₁, g₂, s₂, htime, hparts⟩
  | again hv =>
    cases htop
    exact absurd hv hfirst
  | skip hv =>
    cases htop
    exact absurd hv hfirst

/-- What a step puts in is linked, and is part of the graph after it if its entrance was new. -/
theorem Goes.contains {m m' : Moment σ} {call : NodeId} {into graph : BehaviorGraph} {i : Inlining}
    (hnested : ∀ id, Leaves BuildState.SameCode (nested id)) (hgoes : Goes c nested u m m')
    (h : Inserts c nested u m call into i graph) :
    m'.graph.hasEdge call graph.entrance = true ∧
      (graph.entrance ∉ into.nodes → graph.PartOf m'.graph) := by
  obtain ⟨hedge, hnew⟩ := partOf_putIn into graph call i.tag
  cases h with
  | called hvisit htime hop hgraph =>
    obtain ⟨x, g₁, called?, s₁, g₂, s₂, htime', hop', hput, hlambda⟩ := hvisit.parts hgoes
    cases htime.unique htime'
    cases hop.symm.trans hop'
    cases run_putIn hput hgraph
    -- a function given as an argument takes nothing away
    have hpart := (keeps_putIn stable_sameCode hnested call _ _).value _ _ _
      (congrArg Prod.fst hlambda)
    exact ⟨hpart.hasEdge hedge, fun h => (hnew h).trans hpart⟩
  | argument hvisit htime hop hput hlambda hgraph =>
    obtain ⟨x, g₁, called?, s₁, g₂, s₂, htime', hop', hput', hlast⟩ := hvisit.parts hgoes
    cases htime.unique htime'
    cases hop.symm.trans hop'
    cases hput.symm.trans hput'
    rw [hlambda] at hlast
    rw [run_putIn hlast hgraph]
    exact ⟨hedge, hnew⟩

/-- A build links every call to what was put in at it, and has all of what was put in, unless its
entrance was there before. -/
theorem build_contains_inlined {s s' : BuildState} {services services' : σ} {g : BehaviorGraph}
    {id : NodeId} (hu : c.index.get? id = some u)
    (h : (build c id).run (s, services) = (.ok g, s', services')) {m : Moment σ}
    (hm : Passes c u s services m) {call : NodeId} {into graph : BehaviorGraph} {i : Inlining}
    (hi : Inserts c (inner c) u m call into i graph) :
    g.hasEdge call graph.entrance = true ∧ (graph.entrance ∉ into.nodes → graph.PartOf g) := by
  cases UnitIndex.id_of_get? hu
  obtain ⟨visited, hpasses⟩ := passes_of_build hu h
  have hlast := going_last hm hpasses rfl
  rcases Relation.ReflTransGen.cases_head hlast with rfl | ⟨m', hgoes, hafter⟩
  · -- at the last moment nothing is visited
    rcases hi with ⟨⟨⟨⟩⟩⟩ | ⟨⟨⟨⟩⟩⟩
  · have hpart := Going.partOf (leaves_inner c) hafter
    obtain ⟨hedge, hnew⟩ := hgoes.contains (leaves_inner c) hi
    exact ⟨hpart.hasEdge hedge, fun h => (hnew h).trans hpart⟩

/-! ### A function called twice -/

/-- What a walk puts in at a moment as what is called: where, into which graph, and what. -/
def Moment.inserted? (c : BuildContext σ) (nested : Nested σ) (u : CodeUnit) (m : Moment σ) :
    Option (NodeId × BehaviorGraph × BehaviorGraph) := do
  let (call, former) ← m.stack.head?
  let node ← m.state.arena.get? call
  if call ∈ m.visited ∨ node.entrance = true ∨ node.kind ≠ "CALL" then none
  else
    match c.deadline.check.run m.services with
    | (.error _, _) => none
    | (.ok ⟨⟩, services) =>
      match (operation c u node former (m.graph.addNode call)).run (m.state, services) with
      | (.ok (into, some i), s) =>
        match (nested i.unit.id).run (i.enter s.1, s.2) with
        | (.ok graph, _) => some (call, into, graph)
        | (.error _, _) => none
      | _ => none

theorem inserts_of_inserted? {m : Moment σ} {call : NodeId} {into graph : BehaviorGraph}
    (h : m.inserted? c nested u = some (call, into, graph)) :
    ∃ i, Inserts c nested u m call into i graph := by
  simp only [Moment.inserted?, Option.bind_eq_bind, Option.bind_eq_some_iff] at h
  obtain ⟨⟨call', former⟩, htop, node, hknown, h⟩ := h
  split at h
  · cases h
  · next hskip =>
    simp only [not_or, Bool.not_eq_true, Decidable.not_not] at hskip
    split at h
    · cases h
    · next htime =>
      split at h
      · next hop =>
        split at h
        · next hgraph =>
          cases h
          exact ⟨_, .called ⟨htop, hskip.1, hknown, hskip.2.1, hskip.2.2⟩ htime hop hgraph⟩
        · cases h
      · cases h

/-- `start(); go = require('./util').go; start()`, where `start` calls `go`: only the second time is
there something to call. -/
def calledTwice : Sample where
  code := .sketch
    [(1, "METHOD", [("NAME", ":program"), ("FILENAME", "index.js")]),
      (2, "CALL", [("NAME", "start"), ("CODE", "start()")]),
      (3, "CALL", [("NAME", "<operator>.assignment")]),
      (4, "IDENTIFIER", [("CODE", "go"), ("ORDER", "1")]),
      (5, "CALL", [("NAME", "<operator>.fieldAccess"), ("ORDER", "2")]),
      (6, "CALL", [("NAME", "require"), ("CODE", "require('./util')"), ("ORDER", "1")]),
      (7, "FIELD_IDENTIFIER", [("CODE", "go"), ("ORDER", "2")]),
      (8, "CALL", [("NAME", "start"), ("CODE", "start()")]),
      (10, "METHOD", [("NAME", "start"), ("FILENAME", "index.js")]),
      (11, "CALL", [("NAME", "go"), ("CODE", "go()")]),
      (20, "METHOD", [("NAME", "go"), ("FILENAME", "util.js")]),
      (21, "CALL", [("NAME", "send"), ("CODE", "send()")])]
    [(3, 4), (3, 5), (5, 6), (5, 7)]
  exports :=
    ["digraph \x7b 1 -> 2 -> 3 -> 8 [label=CFG] \x7d", "digraph \x7b 10 -> 11 [label=CFG] \x7d",
      "digraph \x7b 20 -> 21 [label=CFG] \x7d"]

def calledTwiceGraph : BehaviorGraph where
  entrance := 1
  nodes := [1, 2, 10, 11, 3, 8]
  edges := ⟨[((1, 2), ["CFG"]), ((2, 10), ["DDG"]), ((10, 11), ["CFG"]), ((2, 3), ["CFG"]),
    ((3, 8), ["CFG"]), ((8, 10), ["DDG"])]⟩

theorem graph?_calledTwice : calledTwice.graph? 1 = some calledTwiceGraph := by decide +kernel

theorem hasUnit_calledTwice : calledTwice.hasUnit 1 = true := by decide +kernel

/-- What a walk over the sample puts in, by the number of the moment. -/
def calledTwiceInserted? (n : Nat) : Option (NodeId × BehaviorGraph × BehaviorGraph) :=
  (calledTwice.moment? 1 n).bind
    (Moment.inserted? calledTwice.context (inner calledTwice.context) (calledTwice.unit 1))

theorem inserts_calledTwice {n : Nat} {call : NodeId} {into graph : BehaviorGraph}
    (h : calledTwiceInserted? n = some (call, into, graph)) :
    ∃ m i, Passes calledTwice.context (calledTwice.unit 1) calledTwice.state () m ∧
      Inserts calledTwice.context (inner calledTwice.context) (calledTwice.unit 1) m call into i
        graph := by
  obtain ⟨m, hm, hinserted⟩ := Option.bind_eq_some_iff.mp h
  obtain ⟨i, hi⟩ := inserts_of_inserted? hinserted
  exact ⟨m, i, Sample.passes hm, hi⟩

/-- The first call of `start` is whole. -/
theorem build_contains_inlined_calledTwice :
    ∃ m into i graph, Passes calledTwice.context (calledTwice.unit 1) calledTwice.state () m ∧
      Inserts calledTwice.context (inner calledTwice.context) (calledTwice.unit 1) m 2 into i
        graph ∧
      graph.nodes = [10, 11] ∧ calledTwiceGraph.hasEdge 2 graph.entrance = true ∧
      graph.PartOf calledTwiceGraph := by
  have hfirst : calledTwiceInserted? 1 = some (2,
      { entrance := 1, nodes := [1, 2], edges := ⟨[((1, 2), ["CFG"])]⟩ },
      { entrance := 10, nodes := [10, 11], edges := ⟨[((10, 11), ["CFG"])]⟩ }) := by
    decide +kernel
  obtain ⟨m, i, hm, hi⟩ := inserts_calledTwice hfirst
  obtain ⟨s', hrun⟩ := Sample.run graph?_calledTwice
  obtain ⟨hedge, hpart⟩ :=
    build_contains_inlined (Sample.get?_unit hasUnit_calledTwice) hrun hm hi
  exact ⟨m, _, i, _, hm, hi, rfl, hedge, hpart (by decide)⟩

/-- The second call of `start` runs `go`, which the graph does not show. -/
theorem second_call_cut_short :
    Loaded calledTwice.code calledTwice.context.index.units calledTwice.read.2 ∧
    calledTwice.graph? 1 = some calledTwiceGraph ∧
    ∃ m into i graph, Passes calledTwice.context (calledTwice.unit 1) calledTwice.state () m ∧
      Inserts calledTwice.context (inner calledTwice.context) (calledTwice.unit 1) m 8 into i
        graph ∧
      21 ∈ graph.nodes ∧ graph.hasEdge 11 20 = true ∧
      21 ∉ calledTwiceGraph.nodes ∧ calledTwiceGraph.hasEdge 11 20 = false := by
  have hsecond : calledTwiceInserted? 3 = some (8,
      { entrance := 1, nodes := [1, 2, 10, 11, 3, 8],
        edges := ⟨[((1, 2), ["CFG"]), ((2, 10), ["DDG"]), ((10, 11), ["CFG"]), ((2, 3), ["CFG"]),
          ((3, 8), ["CFG"])]⟩ },
      { entrance := 10, nodes := [10, 11, 20, 21],
        edges := ⟨[((10, 11), ["CFG"]), ((11, 20), ["DDG"]), ((20, 21), ["CFG"])]⟩ }) := by
    decide +kernel
  obtain ⟨m, i, hm, hi⟩ := inserts_calledTwice hsecond
  exact ⟨Sample.loaded hasUnit_calledTwice, graph?_calledTwice, m, _, i, _, hm, hi,
    by decide, by decide, by decide, by decide⟩

end PackageVet.Building

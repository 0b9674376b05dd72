import PackageVet.Proofs.Behavior
import PackageVet.Proofs.Build.Underway

/-! What a unit returns itself.

A graph that is built for a unit lists the nodes at which the unit returns: those of its own nodes
that are returns and can be reached, each once, and none of a unit that was put in
(`returns_of_buildWithin`).

This list is what is noted at a call into the unit. So whatever a build notes at a call, at
whichever moment and however deep it is under way, names a unit and exactly what that unit returns
itself (`build_returns_own`). -/
namespace PackageVet

/-- Whether a unit returns at a node: one of its own, which can be reached, and is a return and no
entrance. -/
structure CodeUnit.ReturnsAt (u : CodeUnit) (arena : Arena) (r : NodeId) : Prop where
  own : r ∈ u.nodes
  reached : u.Reaches r
  kind : arena.kind r = "RETURN"
  inside : arena.isEntrance r = false

/-- Whether a list has every node at which a unit returns, each once, and no other. -/
def CodeUnit.Returns (u : CodeUnit) (arena : Arena) (returns : List NodeId) : Prop :=
  returns.Nodup ∧ ∀ r, r ∈ returns ↔ u.ReturnsAt arena r

/-- Whether a link names a unit and what the unit returns. -/
def CalleeLink.Names (link : CalleeLink) (index : UnitIndex) (arena : Arena) : Prop :=
  ∃ u, index.get? link.entrance = some u ∧ u.Returns arena link.returns

/-- What is noted at a call, if a unit was put in at it. -/
def BuildState.callee? (s : BuildState) (n : NodeId) : Option CalleeLink :=
  (s.arena.get? n).bind ProgramNode.callee

/-! ### Loaded packages -/

namespace Loaded
variable {code : CodeGraph} {units : List CodeUnit} {arena : Arena} {u : CodeUnit} {n : NodeId}

/-- A unit leads only to its own nodes. -/
theorem mem_of_reaches (h : Loaded code units arena) (hu : u ∈ units) (hn : u.Reaches n) :
    n ∈ u.nodes := by
  cases hn with
  | refl => exact h.id_mem hu
  | tail _ hedge => exact (h.ends hu (Edges.mem_successors.mp hedge)).2

/-- A state over a package knows what kind of node an export says a node is. -/
theorem kind_eq {s : BuildState} {node : ProgramNode} (h : Loaded code units arena)
    (hover : s.Over arena) (hu : u ∈ units) (hn : n ∈ u.nodes)
    (hnode : s.arena.get? n = some node) : node.kind = arena.kind n := by
  have hsame := hover n (h.mem_keys hu hn)
  rw [Arena.unmarked, Arena.unmarked, hnode] at hsame
  obtain ⟨loaded, hloaded, heq⟩ := Option.map_eq_some_iff.mp hsame.symm
  rw [Arena.kind, hloaded]
  exact (congrArg ProgramNode.kind heq).symm

end Loaded

/-! ### Graphs -/

namespace BehaviorGraph
variable {g h : BehaviorGraph}

/-- What is noted of a graph at a call. -/
def link (g : BehaviorGraph) : CalleeLink := { entrance := g.entrance, returns := g.returns }

theorem link_addNode (g : BehaviorGraph) (id : NodeId) : (g.addNode id).link = g.link := by
  unfold addNode
  split <;> rfl

theorem MoreEdges.link (hgh : g.MoreEdges h) : h.link = g.link :=
  show h.withoutEdges.link = g.withoutEdges.link by rw [hgh.rest]

/-- Nothing is returned by what is put in. -/
theorem link_join (g other : BehaviorGraph) : (g.join other).link = g.link := by
  show (g.join other).withoutEdges.link = g.withoutEdges.link
  rw [withoutEdges_join]
  split
  · rfl
  · exact List.foldlRecOn (motive := fun (h : BehaviorGraph) => h.link = g.withoutEdges.link) _ _
      rfl fun h hh id _ => (h.link_addNode id).trans hh

theorem mem_returns_addReturn {r id : NodeId} :
    r ∈ (g.addReturn id).returns ↔ r ∈ g.returns ∨ r = id := by
  unfold addReturn
  split
  · next hid => exact ⟨.inl, fun h => h.elim (fun hr => hr) fun he => he ▸ hid⟩
  · simp

theorem nodup_addReturn (id : NodeId) (h : g.returns.Nodup) : (g.addReturn id).returns.Nodup := by
  unfold addReturn
  split
  · exact h
  · next hid => exact nodup_concat h hid

theorem entrance_addReturn (g : BehaviorGraph) (id : NodeId) :
    (g.addReturn id).entrance = g.entrance := by
  unfold addReturn
  split <;> rfl

end BehaviorGraph

namespace Building
open BehaviorGraph

variable {σ : Type} {c : BuildContext σ} {nested : Nested σ} {u : CodeUnit} {code : CodeGraph}
  {arena : Arena}

/-! ### Visits -/

theorem link_putIn {call : NodeId} {g g' : BehaviorGraph} {i? : Option Inlining}
    {s s' : BuildState × σ} (h : (putIn nested call g i?).run s = (.ok g', s')) :
    g'.link = g.link := by
  cases i? with
  | none =>
    cases (Effect.run_pure_eq_ok.mp h).1
    rfl
  | some i =>
    obtain ⟨graph, after, -, rfl, -⟩ := putIn_eq_ok h
    rw [link_join]
    rfl

/-- A visit adds a return where it comes to one, and nothing else to what is noted of the graph. -/
theorem link_firstVisit {current : NodeId} {former : Option NodeId} {g g' : BehaviorGraph}
    {node : ProgramNode} {s : BuildState} {services : σ} {after : BuildState × σ}
    (hnode : s.arena.get? current = some node)
    (h : (firstVisit c nested u current former g).run (s, services) = (.ok g', after)) :
    g'.link = (if node.kind = "RETURN" ∧ node.entrance = false then g.addReturn current
      else g).link := by
  unfold firstVisit at h
  obtain ⟨node?, s₁, hread, h⟩ := Effect.run_bind_eq_ok.mp h
  cases hread
  rw [hnode] at h
  dsimp only at h
  split at h
  · next hentrance =>
    cases (Effect.run_pure_eq_ok.mp h).1
    rw [if_neg (by simp [hentrance])]
  · next hinside =>
    split at h
    · next hkind =>
      obtain ⟨_, s₁, -, h⟩ := Effect.run_bind_eq_ok.mp h
      cases (Effect.run_pure_eq_ok.mp h).1
      rw [if_pos ⟨hkind, by simpa using hinside⟩]
      exact (moreInto_linkIncoming ..).link
    · next hkind =>
      have hlinked : g' = g.linkIncoming u former current := by
        split at h
        · obtain ⟨_, s₁, -, h⟩ := Effect.run_bind_eq_ok.mp h
          exact (Effect.run_pure_eq_ok.mp h).1.symm
        · exact (Effect.run_pure_eq_ok.mp h).1.symm
      rw [if_neg (by simp [hkind]), hlinked]
      exact (moreInto_linkIncoming ..).link
    · next hkind =>
      obtain ⟨r, s₁, hop, h⟩ := Effect.run_bind_eq_ok.mp h
      obtain ⟨g₁, s₂, hput, hlambda⟩ := Effect.run_bind_eq_ok.mp h
      have hmore := (keeps_operation stable_sameCode.toShallow c u node g former).value _ _ _
        (congrArg Prod.fst hop)
      rw [if_neg (by simp [hkind]), link_putIn hlambda, link_putIn hput, hmore.link]
    · next hreturn _ _ =>
      cases (Effect.run_pure_eq_ok.mp h).1
      rw [if_neg fun hkind => hreturn hkind.1]
      exact (moreInto_linkIncoming ..).link

/-! ### Walks -/

/-- What holds of the graph at every moment of a walk. -/
structure OwnReturns (arena : Arena) (u : CodeUnit) (m : Moment σ) : Prop where
  entrance : m.graph.entrance = u.id
  nodup : m.graph.returns.Nodup
  returns : ∀ r, r ∈ m.graph.returns ↔
    r ∈ m.visited ∧ arena.kind r = "RETURN" ∧ arena.isEntrance r = false

theorem OwnReturns.of_link {m m' : Moment σ} (h : OwnReturns arena u m)
    (hlink : m'.graph.link = m.graph.link) (hvisited : m'.visited = m.visited) :
    OwnReturns arena u m' := by
  obtain ⟨hentrance, hreturns⟩ := CalleeLink.mk.inj hlink
  refine ⟨hentrance.trans h.entrance, hreturns ▸ h.nodup, fun r => ?_⟩
  rw [hreturns, hvisited]
  exact h.returns r

variable (hloaded : Loaded code c.index.units arena) (hu : u ∈ c.index.units)
include hloaded hu

theorem OwnReturns.goes {m m' : Moment σ} (h : OwnReturns arena u m) (hover : m.state.Over arena)
    (hstack : ∀ entry ∈ m.stack, u.Reaches entry.1) (hgoes : Goes c nested u m m') :
    OwnReturns arena u m' := by
  cases hgoes with
  | @first visited current former stack g g' s s' _ _ _ hnew _ hrun =>
    have hnode := hloaded.mem_of_reaches hu (hstack _ (List.mem_cons_self ..))
    obtain ⟨node, hknown, -, hentrance⟩ := hloaded.known hover hu hnode
    have hkind := hloaded.kind_eq hover hu hnode hknown
    have hlink := link_firstVisit hknown hrun
    rw [hkind, hentrance] at hlink
    obtain ⟨hbegun, hbefore⟩ := CalleeLink.mk.inj (g.link_addNode current)
    by_cases hreturn : arena.kind current = "RETURN" ∧ arena.isEntrance current = false
    · rw [if_pos hreturn] at hlink
      obtain ⟨hstart, hreturns⟩ := CalleeLink.mk.inj hlink
      refine ⟨?_, ?_, fun r => ?_⟩
      · rw [hstart, entrance_addReturn, hbegun, h.entrance]
      · rw [hreturns]
        exact nodup_addReturn current (hbefore ▸ h.nodup)
      · rw [hreturns, mem_returns_addReturn, hbefore, h.returns, List.mem_cons]
        constructor
        · rintro (⟨hr, hreturn'⟩ | rfl)
          · exact ⟨.inr hr, hreturn'⟩
          · exact ⟨.inl rfl, hreturn⟩
        · rintro ⟨rfl | hr, hreturn'⟩
          · exact .inr rfl
          · exact .inl ⟨hr, hreturn'⟩
    · rw [if_neg hreturn] at hlink
      obtain ⟨hstart, hreturns⟩ := CalleeLink.mk.inj hlink
      refine ⟨?_, ?_, fun r => ?_⟩
      · rw [hstart, hbegun, h.entrance]
      · rw [hreturns, hbefore]
        exact h.nodup
      · rw [hreturns, hbefore, h.returns, List.mem_cons]
        constructor
        · exact fun hr => ⟨.inr hr.1, hr.2⟩
        · rintro ⟨rfl | hr, hreturn'⟩
          · exact absurd hreturn' hreturn
          · exact ⟨hr, hreturn'⟩
  | again => exact h.of_link (moreInto_revisit ..).link rfl
  | skip => exact h.of_link rfl rfl

theorem ownReturns_of_going {depth : Nat} {s : BuildState} {services : σ} {m : Moment σ}
    (hover : s.Over arena) (h : Going c (buildWithin c depth) u (.start u s services) m) :
    OwnReturns arena u m := by
  induction h with
  | refl => exact ⟨rfl, List.nodup_nil, fun r => by simp [Moment.start]⟩
  | tail hgoing hgoes ih =>
    have hstill := (Carried.of_stable (stable_over arena)).going hgoing hover
    exact ih.goes hloaded hu hstill (reaches_of_going hgoing).2 hgoes

omit hu

/-- A graph starts at its unit, and returns what the unit returns. -/
theorem returns_of_buildWithin {depth : Nat} {id : NodeId} {s : BuildState} {services : σ}
    {g : BehaviorGraph} {after : BuildState × σ} (hover : s.Over arena)
    (hu : c.index.get? id = some u)
    (h : (buildWithin c depth id).run (s, services) = (.ok g, after)) :
    g.entrance = id ∧ u.Returns arena g.returns := by
  cases UnitIndex.id_of_get? hu
  have hmem := UnitIndex.mem_units_of_get? hu
  cases depth with
  | zero => cases h
  | succ depth =>
    obtain ⟨visited, hgoing⟩ := going_of_buildWithin hu h
    have hown := ownReturns_of_going hloaded hmem hover hgoing
    refine ⟨hown.entrance, hown.nodup, fun r => (hown.returns r).trans ?_⟩
    constructor
    · rintro ⟨hvisited, hkind, hinside⟩
      have hreached := (reaches_of_going hgoing).1 r hvisited
      exact ⟨hloaded.mem_of_reaches hmem hreached, hreached, hkind, hinside⟩
    · rintro ⟨-, hreached, hkind, hinside⟩
      have hnested := leaves_buildWithin stable_sameCode c depth
      exact ⟨visits_of_end hnested hgoing rfl hreached, hkind, hinside⟩

end Building

/-! ### What is noted at calls -/

/-- Whether whatever is noted at a call was noted there before, or names a unit and what the unit
returns. -/
def BuildState.NotesOnly (index : UnitIndex) (arena : Arena) (s s' : BuildState) : Prop :=
  ∀ n link, s'.callee? n = some link → s.callee? n = some link ∨ link.Names index arena

namespace BuildState
variable {index : UnitIndex} {arena : Arena} {s s' t : BuildState}

theorem notesOnly_of_callee (h : ∀ n, s'.callee? n = s.callee? n) : s.NotesOnly index arena s' :=
  fun n _ hlink => .inl ((h n).symm.trans hlink)

theorem NotesOnly.trans (hst : s.NotesOnly index arena s') (htu : s'.NotesOnly index arena t) :
    s.NotesOnly index arena t := by
  intro n link hlink
  rcases htu n link hlink with hlink | hnames
  · exact hst n link hlink
  · exact .inr hnames

theorem NotesOnly.enclosed {i : Inlining} (h : (i.enter s).NotesOnly index arena s') :
    s.NotesOnly index arena (i.leave s') := by
  intro n link hlink
  rw [callee?, i.arena_leave] at hlink
  have hbefore := h n link hlink
  rwa [callee?, i.arena_enter] at hbefore

theorem callee?_updateNode (s : BuildState) (id : NodeId) (change : ProgramNode → ProgramNode)
    (n : NodeId) : (s.updateNode id change).callee? n =
      if n = id then (s.arena.get? n).bind fun node => (change node).callee else s.callee? n := by
  rw [callee?, updateNode, Table.get?_modify]
  split
  · rw [Option.bind_map]
    rfl
  · rfl

/-- Marking a node does not say what was put in at it. -/
theorem callee?_mark (s : BuildState) (id : NodeId) {change : ProgramNode → ProgramNode}
    (h : ∀ node, (change node).callee = node.callee) (n : NodeId) :
    (s.updateNode id change).callee? n = s.callee? n := by
  rw [callee?_updateNode]
  split
  · simp only [h]
    rfl
  · rfl

/-- What is noted of a graph at a call into its unit. -/
theorem notesOnly_note (s : BuildState) (call : NodeId) (i : Inlining) {graph : BehaviorGraph}
    (h : graph.link.Names index arena) :
    s.NotesOnly index arena (s.updateNode call (i.note graph)) := by
  have hlinked (change : ProgramNode → ProgramNode)
      (hchange : ∀ node, (change node).callee = some graph.link) :
      s.NotesOnly index arena (s.updateNode call change) := by
    intro n link hlink
    rw [callee?_updateNode] at hlink
    split at hlink
    · simp only [hchange] at hlink
      obtain ⟨node, -, heq⟩ := Option.bind_eq_some_iff.mp hlink
      cases heq
      exact .inr h
    · exact .inl hlink
  cases i with
  | function => exact hlinked _ fun _ => rfl
  | localModule => exact hlinked _ fun _ => rfl
  | lambda => exact notesOnly_of_callee (s.callee?_mark call fun _ => rfl)
  | program => exact notesOnly_of_callee (s.callee?_mark call fun _ => rfl)

end BuildState

namespace Building
variable {σ : Type} {c : BuildContext σ} {code : CodeGraph} {arena : Arena}
  (hloaded : Loaded code c.index.units arena)
include hloaded

/-- What is put in is noted with what it returns itself. -/
theorem names_of_buildWithin {depth : Nat} {v : CodeUnit} {s : BuildState} {services : σ}
    {g : BehaviorGraph} {after : BuildState × σ} (hover : s.Over arena) (hv : v ∈ c.index.units)
    (h : (buildWithin c depth v.id).run (s, services) = (.ok g, after)) :
    g.link.Names c.index arena := by
  obtain ⟨w, hw⟩ := UnitIndex.get?_of_mem hv
  obtain ⟨hentrance, hreturns⟩ := returns_of_buildWithin hloaded hover hw h
  refine ⟨w, ?_, hreturns⟩
  rw [BehaviorGraph.link, hentrance]
  exact hw

theorem carried_notesOnly : Carried c fun s s' =>
    s.Over arena → s'.Over arena ∧ s.NotesOnly c.index arena s' where
  refl s hs := ⟨hs, BuildState.notesOnly_of_callee fun _ => rfl⟩
  trans hab hbc ha := by
    obtain ⟨hb, hnotes⟩ := hab ha
    exact ⟨(hbc hb).1, hnotes.trans (hbc hb).2⟩
  note s id change h hs :=
    ⟨(stable_over arena).note s id change h hs,
      BuildState.notesOnly_of_callee (s.callee?_mark id fun n => (h n).2.2)⟩
  refuse s _ hs := ⟨hs, BuildState.notesOnly_of_callee fun _ => rfl⟩
  declare s _ hs := ⟨hs, BuildState.notesOnly_of_callee fun _ => rfl⟩
  kind s id kind hs :=
    ⟨(stable_over arena).kind s id kind hs,
      BuildState.notesOnly_of_callee (s.callee?_mark id fun _ => rfl)⟩
  putIn depth hnested call g i? hunits := by
    refine ⟨fun s services hs => ?_, (keeps_putIn stable_sameCode
      (leaves_buildWithin stable_sameCode c depth) call g i?).value⟩
    cases i? with
    | none => exact ⟨hs, BuildState.notesOnly_of_callee fun _ => rfl⟩
    | some i =>
      have hentered := hs.enter i
      have hleft : ∀ after : BuildState,
          after.Over arena ∧ (i.enter s).NotesOnly c.index arena after →
          (i.leave after).Over arena ∧ s.NotesOnly c.index arena (i.leave after) :=
        fun after h => ⟨h.1.leave i, h.2.enclosed⟩
      rcases hrun : (putIn (buildWithin c depth) call g (some i)).run (s, services) with
        ⟨e | g', after⟩
      · obtain ⟨inner, hinner, rfl⟩ := putIn_eq_error hrun
        exact hleft _ ((hnested i.unit.id).state_of_run hinner hentered)
      · obtain ⟨graph, inner, hgraph, -, rfl⟩ := putIn_eq_ok hrun
        obtain ⟨hover, hnotes⟩ := hleft _ ((hnested i.unit.id).state_of_run hgraph hentered)
        have hnames := names_of_buildWithin hloaded hentered (hunits i rfl) hgraph
        refine ⟨?_, hnotes.trans (BuildState.notesOnly_note _ call i hnames)⟩
        exact (stable_over arena).mark _ call _
          (fun n => ⟨i.unmarked_note graph n, i.isSome_callee_note graph⟩) hover

/-- A build gives a graph that returns what its unit returns itself. Whatever is noted at a call,
after the build or at any moment of a build under way in it, was noted before or names a unit and
what that unit returns itself; and so does what is noted of every graph that is put in. -/
theorem build_returns_own {s : BuildState} (hover : s.Over arena) (id : NodeId) (services : σ) :
    (∀ u g after, c.index.get? id = some u →
      (build c id).run (s, services) = (.ok g, after) → u.Returns arena g.returns) ∧
    s.NotesOnly c.index arena ((build c id).run (s, services)).2.1 ∧
    ∀ around b m, Underway c id s services around b → b.Passes c m →
      s.NotesOnly c.index arena m.state ∧
      ∀ call into i graph, Inserts c (buildWithin c b.depth) b.unit m call into i graph →
        graph.link.Names c.index arena := by
  have hcarried := carried_notesOnly hloaded
  refine ⟨fun u g after hu hrun => (returns_of_buildWithin hloaded hover hu hrun).2,
    ((hcarried.build (maxDepth c) id).state s services hover).2, fun around b m hb hm => ⟨?_, ?_⟩⟩
  · have henter (i : Inlining) (s : BuildState) (hs : s.Over arena) :
        (i.enter s).Over arena ∧ s.NotesOnly c.index arena (i.enter s) := by
      refine ⟨hs.enter i, BuildState.notesOnly_of_callee fun n => ?_⟩
      rw [BuildState.callee?, i.arena_enter]
      rfl
    exact (hcarried.moment henter hb hm hover).2
  · intro call into i graph hinserts
    obtain ⟨t, after, henters, hgraph⟩ := hinserts.enters
    have hthere : t.1.Over arena :=
      (Carried.of_stable (stable_over arena)).enters henters (hb.over hover hm)
    exact names_of_buildWithin hloaded (hthere.enter i) henters.unit_mem hgraph

omit hloaded

/-- `wrap()`, which returns after it has called `load`. -/
def wrapped : Sample where
  code := .sketch
    [(1, "METHOD", [("NAME", ":program"), ("FILENAME", "index.js")]),
      (2, "CALL", [("NAME", "wrap"), ("CODE", "wrap()")]),
      (10, "METHOD", [("NAME", "wrap"), ("FILENAME", "index.js")]),
      (11, "CALL", [("NAME", "load"), ("CODE", "load()")]),
      (12, "RETURN", []),
      (20, "METHOD", [("NAME", "load"), ("FILENAME", "index.js")]),
      (21, "RETURN", [])] []
  exports :=
    ["digraph \x7b 1 -> 2 [label=CFG] \x7d", "digraph \x7b 10 -> 11 -> 12 [label=CFG] \x7d",
      "digraph \x7b 20 -> 21 [label=CFG] \x7d"]

def wrappedGraph : BehaviorGraph where
  entrance := 10
  returns := [12]
  nodes := [10, 11, 20, 21, 12]
  edges := ⟨[((10, 11), ["CFG"]), ((11, 20), ["DDG"]), ((20, 21), ["CFG"]), ((11, 12), ["CFG"])]⟩

/-- The state that a build of the top level leaves. -/
def afterWrapped : BuildState := ((build wrapped.context 1).run (wrapped.state, ())).2.1

theorem computed_wrapped :
    wrapped.hasUnit 10 = true ∧ wrapped.graph? 10 = some wrappedGraph ∧
    wrapped.state.callee? 2 = none ∧ afterWrapped.callee? 2 = some ⟨10, [12]⟩ := by
  decide +kernel

/-- What `load` returns is in the graph of `wrap`, and is not returned by it. -/
theorem build_returns_own_wrapped :
    wrapped.graph? 10 = some wrappedGraph ∧ 21 ∈ wrappedGraph.nodes ∧
    (wrapped.unit 10).Returns wrapped.read.2 [12] ∧
    afterWrapped.callee? 2 = some ⟨10, [12]⟩ ∧
    CalleeLink.Names ⟨10, [12]⟩ wrapped.context.index wrapped.read.2 := by
  obtain ⟨hunit, hgraph, hnone, hnoted⟩ := computed_wrapped
  obtain ⟨s', hrun⟩ := Sample.run hgraph
  have hloaded := Sample.loaded hunit
  refine ⟨hgraph, by decide, ?_, hnoted, ?_⟩
  · exact (build_returns_own hloaded wrapped.over_state 10 ()).1 _ _ _ (Sample.get?_unit hunit) hrun
  · have hnotes := (build_returns_own hloaded wrapped.over_state 1 ()).2.1
    rcases hnotes 2 _ hnoted with hbefore | hnames
    · rw [hnone] at hbefore
      cases hbefore
    · exact hnames

end Building

end PackageVet

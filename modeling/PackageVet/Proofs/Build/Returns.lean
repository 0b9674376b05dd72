import PackageVet.Proofs.Build.Coverage

/-! What a call returns, where a walk comes back to a node that uses it.

A walk that comes to a node again over data from a call into a unit (`Moment.ComesBack`) links what
the unit returns to the node in three cases: the node is a template, an assignment, or itself a call
that a unit was put in at (`TakesReturned`). To any other node only the edge from the call is added
(`revisit_eq`), and what is returned need not lead there at all (`returned_not_sent`). -/
namespace PackageVet.Building
open BehaviorGraph

variable {σ : Type} {c : BuildContext σ} {u : CodeUnit} {arena : Arena} {g : BehaviorGraph}
  {source target : ProgramNode} {a b : NodeId} {returns : List NodeId} {tags : List String}

/-- Whether a walk is about to follow an edge of data to a node that it has been at, from a call
into a unit that returns some nodes. -/
structure Moment.ComesBack (m : Moment σ) (u : CodeUnit) (a b : NodeId) (returns : List NodeId) :
    Prop where
  top : m.stack.head? = some (b, some a)
  visited : b ∈ m.visited
  data : u.edgeKind? a b = some .data
  call : ∃ source ∈ m.state.arena.get? a,
    source.hasResolvedCallee = true ∧ returnsOf source = returns

instance (m : Moment σ) (u : CodeUnit) (a b : NodeId) (returns : List NodeId) :
    Decidable (m.ComesBack u a b returns) :=
  decidable_of_iff (m.stack.head? = some (b, some a) ∧ b ∈ m.visited ∧
      u.edgeKind? a b = some .data ∧ ∃ source ∈ m.state.arena.get? a,
        source.hasResolvedCallee = true ∧ returnsOf source = returns)
    ⟨fun h => ⟨h.1, h.2.1, h.2.2.1, h.2.2.2⟩, fun h => ⟨h.top, h.visited, h.data, h.call⟩⟩

/-- Whether a node takes what is returned, when it is visited again over data from a call. -/
def TakesReturned (target : ProgramNode) : Prop :=
  target.name = "<operator>.formatString" ∨ target.callKind = some .assignment ∨
    target.callee.isSome = true

instance (target : ProgramNode) : Decidable (TakesReturned target) :=
  inferInstanceAs (Decidable (_ ∨ _ ∨ _))

/-! ### One step -/

theorem substituteReturns_of_returns (hne : returnsOf source ≠ [])
    (hdata : EdgeKind.ofTags tags = .data) :
    g.substituteReturns source b tags = g.linkReturns (returnsOf source) b tags := by
  unfold substituteReturns
  split
  · next hnil => exact absurd hnil hne
  · rw [if_pos hdata]

/-- What is added for an edge of data from a call into a unit that returns something. -/
theorem revisit_eq (hsource : arena.get? a = some source) (htarget : arena.get? b = some target)
    (hresolved : source.hasResolvedCallee = true) (hne : returnsOf source ≠ [])
    (htags : u.tags? a b = some tags) (hdata : EdgeKind.ofTags tags = .data) :
    revisit arena u a b g =
      if target.name = "<operator>.formatString" ∨ target.callKind = some .assignment then
        g.linkReturns (returnsOf source) b tags
      else if target.callee.isSome = true then
        (g.linkReturns (returnsOf source) b tags).addEdge a b tags
      else g.addEdge a b tags := by
  unfold revisit
  rw [hsource, htarget, incomingTags_some htags]
  simp only [linkResolved, hresolved, substituteReturns_of_returns hne hdata, hdata, if_true,
    Bool.and_true]
  by_cases hname : target.name = "<operator>.formatString"
  · rw [if_pos hname, if_pos (.inl hname)]
  · simp only [hname, if_false, false_or]

/-- What is returned leads to a node that takes it; to any other only the call does. -/
theorem revisit_returned (hsource : arena.get? a = some source)
    (htarget : arena.get? b = some target) (hresolved : source.hasResolvedCallee = true)
    (hne : returnsOf source ≠ []) (htags : u.tags? a b = some tags)
    (hdata : EdgeKind.ofTags tags = .data) :
    (TakesReturned target → ∀ r ∈ returnsOf source, (revisit arena u a b g).Leads .data r b) ∧
      (¬ TakesReturned target → revisit arena u a b g = g.addEdge a b tags) := by
  rw [revisit_eq hsource htarget hresolved hne htags hdata]
  by_cases hplain : target.name = "<operator>.formatString" ∨ target.callKind = some .assignment
  · rw [if_pos hplain]
    refine ⟨fun _ r hr => leads_linkReturns hr (.inr hdata), fun hnot => absurd ?_ hnot⟩
    exact hplain.imp_right .inl
  · rw [if_neg hplain]
    by_cases hcallee : target.callee.isSome = true
    · rw [if_pos hcallee]
      refine ⟨fun _ r hr => ?_, fun hnot => absurd (.inr (.inr hcallee)) hnot⟩
      exact leads_addEdge.mpr (.inl (leads_linkReturns hr (.inr hdata)))
    · rw [if_neg hcallee]
      refine ⟨fun htakes => absurd (or_assoc.mpr htakes) ?_, fun _ => rfl⟩
      exact not_or.mpr ⟨hplain, hcallee⟩

theorem Moment.ComesBack.graph {nested : Nested σ} {m m' : Moment σ}
    (h : m.ComesBack u a b returns) (hgoes : Goes c nested u m m') :
    m'.graph = revisit m.state.arena u a b m.graph := by
  obtain ⟨htop, hvisited, -, -⟩ := h
  cases hgoes with
  | first hn =>
    cases htop
    exact absurd hvisited hn
  | again =>
    cases htop
    rfl
  | skip => cases htop

/-! ### Whole builds -/

/-- When a build comes back to a node over data from a call, all that was returned leads to the node
as data in the end, if the node takes what is returned. If not, the call itself leads to it, and
that edge is all that is added. -/
theorem build_returns_again {code : CodeGraph} {s s' : BuildState} {services services' : σ}
    {id : NodeId} {m : Moment σ} (hloaded : Loaded code c.index.units arena)
    (hover : s.Over arena) (hu : c.index.get? id = some u)
    (h : (build c id).run (s, services) = (.ok g, s', services'))
    (hm : Passes c u s services m) (hback : m.ComesBack u a b returns) (hne : returns ≠ []) :
    ∃ target tags, m.state.arena.get? b = some target ∧ u.tags? a b = some tags ∧
      (TakesReturned target → ∀ r ∈ returns, g.edgeKind? r b = some .data) ∧
      (¬ TakesReturned target → g.edgeKind? a b = some .data ∧
        ∃ m', Goes c (inner c) u m m' ∧ m'.graph = m.graph.addEdge a b tags) := by
  cases UnitIndex.id_of_get? hu
  obtain ⟨visited, hpasses⟩ := passes_of_build hu h
  obtain ⟨tags, htags, hdata⟩ := Option.map_eq_some_iff.mp hback.data
  obtain ⟨source, hsource, hresolved, rfl⟩ := hback.call
  obtain ⟨m', hgoes, hafter⟩ : ∃ m', Goes c (inner c) u m m' ∧ Going c (inner c) u m' _ := by
    rcases Relation.ReflTransGen.cases_head (going_last hm hpasses rfl) with rfl | hnext
    · cases hback.top
    · exact hnext
  have hpart := Going.partOf (leaves_inner c) hafter
  rw [hback.graph hgoes] at hpart
  obtain ⟨target, htarget⟩ : ∃ target, m.state.arena.get? b = some target := by
    have htrack := onTrack_of_going (leaves_inner c) hm
    have hmember := UnitIndex.mem_units_of_get? hu
    have hedge := (htrack.edges a b (List.mem_of_head? hback.top)).2
    have hends := hloaded.ends hmember (Edges.mem_successors.mp hedge)
    obtain ⟨target, htarget, -⟩ := hloaded.known (Passes.over hover hm) hmember hends.2
    exact ⟨target, htarget⟩
  obtain ⟨htakes, hplain⟩ :=
    revisit_returned (g := m.graph) hsource htarget hresolved hne htags hdata
  refine ⟨target, tags, htarget, htags, fun ht r hr => ?_, fun hnot => ⟨?_, m', hgoes, ?_⟩⟩
  · exact leads_data.mp (hpart.leads (htakes ht r hr))
  · refine leads_data.mp (hpart.leads ?_)
    rw [hplain hnot]
    exact leads_addEdge_self (.inr hdata)
  · rw [hback.graph hgoes, hplain hnot]

/-! ### A call that is not always made -/

/-- A call of something with `ready || load()`, where `load` returns a value. -/
def maybeLoaded (name : String) : Sample where
  code := .sketch
    [(1, "METHOD", [("NAME", ":program"), ("FILENAME", "index.js")]),
      (2, "CALL", [("NAME", "load"), ("CODE", "load()")]),
      (3, "CALL", [("NAME", name), ("CODE", name ++ "(ready || load())")]),
      (10, "METHOD", [("NAME", "load"), ("FILENAME", "index.js")]), (11, "RETURN", [])] []
  exports :=
    ["digraph \x7b 1 -> 3 [label=CFG] 1 -> 2 -> 3 [label=CFG] 2 -> 3 [label=\"DDG: load()\"] \x7d",
      "digraph \x7b 10 -> 11 [label=CFG] \x7d"]

/-- `load(ready || load())`: the value leads to the call that it is given to. -/
def reloaded : Sample := maybeLoaded "load"

def reloadedGraph : BehaviorGraph where
  entrance := 1
  nodes := [1, 3, 10, 11, 2]
  edges := ⟨[((1, 3), ["CFG"]), ((3, 10), ["DDG"]), ((10, 11), ["CFG"]), ((1, 2), ["CFG"]),
    ((2, 10), ["DDG"]), ((11, 3), ["CFG", "DDG: load()"]), ((2, 3), ["CFG", "DDG: load()"])]⟩

theorem computed_reloaded :
    reloaded.hasUnit 1 = true ∧ reloaded.graph? 1 = some reloadedGraph ∧
    ∃ m ∈ reloaded.moment? 1 3, m.ComesBack (reloaded.unit 1) 2 3 [11] ∧
      ∀ target ∈ m.state.arena.get? 3, TakesReturned target := by
  decide +kernel

theorem build_returns_again_reloaded :
    reloaded.graph? 1 = some reloadedGraph ∧
    ∃ m target, Passes reloaded.context (reloaded.unit 1) reloaded.state () m ∧
      m.ComesBack (reloaded.unit 1) 2 3 [11] ∧ m.state.arena.get? 3 = some target ∧
      TakesReturned target ∧ reloadedGraph.edgeKind? 11 3 = some .data := by
  obtain ⟨hunit, hgraph, m, hm, hback, htakes⟩ := computed_reloaded
  obtain ⟨s', hrun⟩ := Sample.run hgraph
  have hpasses := Sample.passes hm
  obtain ⟨target, tags, htarget, -, hall, -⟩ := build_returns_again (Sample.loaded hunit)
    reloaded.over_state (Sample.get?_unit hunit) hrun hpasses hback (by decide)
  have hreturned := htakes target htarget
  exact ⟨hgraph, m, target, hpasses, hback, htarget, hreturned, hall hreturned 11 (by decide)⟩

/-- `send(ready || load())`: the value leads nowhere. -/
def sent : Sample := maybeLoaded "send"

def sentGraph : BehaviorGraph where
  entrance := 1
  nodes := [1, 3, 2, 10, 11]
  edges := ⟨[((1, 3), ["CFG"]), ((1, 2), ["CFG"]), ((2, 10), ["DDG"]), ((10, 11), ["CFG"]),
    ((2, 3), ["CFG", "DDG: load()"])]⟩

theorem computed_sent :
    sent.hasUnit 1 = true ∧ sent.graph? 1 = some sentGraph ∧
    ∃ m ∈ sent.moment? 1 3, m.ComesBack (sent.unit 1) 2 3 [11] := by
  decide +kernel

/-- What is returned does not lead to a call of what is not a function of the package. -/
theorem returned_not_sent :
    Loaded sent.code sent.context.index.units sent.read.2 ∧ sent.state.Over sent.read.2 ∧
    sent.graph? 1 = some sentGraph ∧
    (∃ m, Passes sent.context (sent.unit 1) sent.state () m ∧
      m.ComesBack (sent.unit 1) 2 3 [11]) ∧
    sentGraph.edgeKind? 11 3 = none := by
  obtain ⟨hunit, hgraph, m, hm, hback⟩ := computed_sent
  exact ⟨Sample.loaded hunit, sent.over_state, hgraph, ⟨m, Sample.passes hm, hback⟩, by decide⟩

end PackageVet.Building

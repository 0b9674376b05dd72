import PackageVet.Proofs.Reduced.Graph
import PackageVet.Proofs.Reduced.Search

/-! What the reduced graph of a behaviour graph says.

Its nodes are the sensitive nodes with their categories (`category?_reduced`). Two different
sensitive nodes are linked exactly when a route leads from one to the other, and the link is one of
data exactly when a route of data does (`leads_reduced`); the nodes left out on it lie on such
routes (`reduced_sound`). So the two graphs have the same ways between different sensitive nodes
(`way_reduced`). -/
namespace PackageVet.BehaviorGraph

variable {g : BehaviorGraph} {category? : NodeId → Option Category} {r : ReducedGraph}
  {start s t : NodeId}

/-- What an edge says of the two nodes that it links. -/
inductive Linked (g : BehaviorGraph) (category? : NodeId → Option Category) (s t : NodeId) :
    ReducedEdge → Prop where
  | data {elided : List NodeId} (route : ∃ between, g.Route category? .data s between t)
      (left : ∀ n ∈ elided, ∃ between, g.Route category? .data s between t ∧ n ∈ between) :
      Linked g category? s t ⟨.data, elided⟩
  | control {elided : List NodeId} (route : g.Route category? .control s elided t)
      (noData : ∀ between, ¬ g.Route category? .data s between t) :
      Linked g category? s t ⟨.control, elided⟩

/-- What holds of the graph while the searches add to it. -/
structure Sound (g : BehaviorGraph) (category? : NodeId → Option Category) (r : ReducedGraph) :
    Prop where
  built : r.Built
  node : ∀ id c, r.category? id = some c → category? id = some c
  edge : ∀ s t e, r.edge? s t = some e →
    s ≠ t ∧ (category? s).isSome ∧ (category? t).isSome ∧ g.Linked category? s t e

/-- Whether a node is linked to every other sensitive node to which a route leads from it. -/
def Covers (g : BehaviorGraph) (category? : NodeId → Option Category) (r : ReducedGraph)
    (s : NodeId) : Prop :=
  ∀ t between, g.Route category? .control s between t → (category? t).isSome → t ≠ s →
    (r.edge? s t).isSome

theorem Covers.mono {r' : ReducedGraph} (h : g.Covers category? r s) (hw : r.Within r') :
    g.Covers category? r' s :=
  fun t between hroute hsome hne => hw.edge s t (h t between hroute hsome hne)

theorem sound_empty : g.Sound category? {} :=
  ⟨.empty, fun _ _ h => (nomatch h), fun _ _ _ h => nomatch h⟩

theorem Sound.addNode (h : g.Sound category? r) {id : NodeId} {c : Category}
    (hc : category? id = some c) : g.Sound category? (r.addNode id c) := by
  refine ⟨.addNode id c h.built, fun other c' hget => ?_, h.edge⟩
  rw [ReducedGraph.category?_addNode] at hget
  split at hget
  · next he => rw [he, hc, ← hget]
  · exact h.node other c' hget

/-- Adding an edge, when it is known what the new value says. -/
theorem Sound.addEdge (h : g.Sound category? r) (kind : EdgeKind) (elided : List NodeId)
    (hne : s ≠ t) (hs : (category? s).isSome) (ht : (category? t).isSome)
    (hlink : ∀ e, (r.addEdge s t kind elided).edge? s t = some e → g.Linked category? s t e) :
    g.Sound category? (r.addEdge s t kind elided) := by
  refine ⟨.addEdge s t kind elided h.built, h.node, fun s' t' e he => ?_⟩
  by_cases hst : s' = s ∧ t' = t
  · obtain ⟨rfl, rfl⟩ := hst
    exact ⟨hne, hs, ht, hlink e he⟩
  · rw [ReducedGraph.edge?_addEdge_of_ne hst] at he
    exact h.edge s' t' e he

/-- Recording a route of data. An edge of control cannot be there: it would deny the route. -/
theorem Sound.addData (h : g.Sound category? r) (hs : (category? start).isSome) {f : Find}
    (hroute : g.Route category? .data start f.path f.target)
    (hf : category? f.target = some f.category) (hne : f.target ≠ start) :
    g.Sound category? (r.addData start f) := by
  refine (h.addNode hf).addEdge .data f.path (Ne.symm hne) hs (by rw [hf]; rfl) fun e he => ?_
  cases hknown : r.edge? start f.target with
  | none =>
    rw [ReducedGraph.edge?_addEdge_of_none (by simpa using hknown)] at he
    cases he
    exact .data ⟨_, hroute⟩ fun n hn => ⟨_, hroute, hn⟩
  | some known =>
    rw [ReducedGraph.edge?_addEdge_of_some (by simpa using hknown)] at he
    cases he
    obtain ⟨-, -, -, hlinked⟩ := h.edge _ _ _ hknown
    cases hlinked with
    | data route left =>
      refine .data route fun n hn => ?_
      rcases mem_mergeIds.mp hn with hn | hn
      · exact left n hn
      · exact ⟨_, hroute, hn⟩
    | control _ noData => exact absurd hroute (noData _)

/-- Recording a route of control, when every route of data has been recorded. -/
theorem Sound.addControl (h : g.Sound category? r) (hs : (category? start).isSome) {f : Find}
    (hroute : g.Route category? .control start f.path f.target)
    (hf : category? f.target = some f.category) (hne : f.target ≠ start)
    (hdata : ∀ between, g.Route category? .data start between f.target →
      (r.edge? start f.target).isSome) :
    g.Sound category? (r.addControl start f) := by
  unfold ReducedGraph.addControl
  split
  · exact h
  · next hnone =>
    refine (h.addNode hf).addEdge .control f.path (Ne.symm hne) hs (by rw [hf]; rfl) fun e he => ?_
    have hnew : r.edge? start f.target = none := by simpa using hnone
    rw [ReducedGraph.edge?_addEdge_of_none (by simpa using hnew)] at he
    cases he
    exact .control hroute fun between hr => hnone (hdata between hr)

theorem within_addData (r : ReducedGraph) (start : NodeId) (f : Find) :
    r.Within (r.addData start f) :=
  (r.within_addNode f.target f.category).trans (ReducedGraph.within_addEdge ..)

theorem within_addControl (r : ReducedGraph) (start : NodeId) (f : Find) :
    r.Within (r.addControl start f) := by
  unfold ReducedGraph.addControl
  split
  · exact .refl r
  · exact (r.within_addNode f.target f.category).trans (ReducedGraph.within_addEdge ..)

theorem isSome_edge?_addControl (r : ReducedGraph) (start : NodeId) (f : Find) :
    ((r.addControl start f).edge? start f.target).isSome := by
  unfold ReducedGraph.addControl
  split
  · next h => exact h
  · exact ReducedGraph.isSome_edge?_addEdge_self ..

/-! ### The searches from one node -/

/-- Finds recorded one after another: what each of them keeps holds at the end, and every find has
its edge. -/
theorem foldl_record {keeps : ReducedGraph → Prop} {record : ReducedGraph → Find → ReducedGraph}
    {finds : List Find}
    (hstep : ∀ r, ∀ f ∈ finds, keeps r → keeps (record r f) ∧ r.Within (record r f) ∧
      ((record r f).edge? start f.target).isSome) (h : keeps r) :
    keeps (finds.foldl record r) ∧ r.Within (finds.foldl record r) ∧
      ∀ f ∈ finds, ((finds.foldl record r).edge? start f.target).isSome := by
  induction finds generalizing r with
  | nil => exact ⟨h, .refl r, fun _ hf => nomatch hf⟩
  | cons f rest ih =>
    obtain ⟨hkeeps, hwithin, hedge⟩ := hstep r f (List.mem_cons_self ..) h
    obtain ⟨hend, hwithin', hedges⟩ :=
      ih (fun r f hf => hstep r f (List.mem_cons_of_mem _ hf)) hkeeps
    exact ⟨hend, hwithin.trans hwithin',
      List.forall_mem_cons.mpr ⟨hwithin'.edge _ _ hedge, hedges⟩⟩

/-- All finds of the search for data. -/
theorem foldl_addData (hs : (category? start).isSome) (finds : List Find)
    (hfinds : ∀ f ∈ finds, g.Route category? .data start f.path f.target ∧
      category? f.target = some f.category ∧ f.target ≠ start)
    (h : g.Sound category? r) :
    g.Sound category? (finds.foldl (.addData start) r) ∧
      r.Within (finds.foldl (.addData start) r) ∧
      ∀ f ∈ finds, ((finds.foldl (.addData start) r).edge? start f.target).isSome := by
  refine foldl_record (fun r f hf hsound => ?_) h
  obtain ⟨hroute, hcategory, hne⟩ := hfinds f hf
  exact ⟨hsound.addData hs hroute hcategory hne, within_addData r start f,
    ReducedGraph.isSome_edge?_addEdge_self ..⟩

/-- Whether the routes of data from a node have been recorded. -/
def CoversData (g : BehaviorGraph) (category? : NodeId → Option Category) (r : ReducedGraph)
    (s : NodeId) : Prop :=
  ∀ t between, g.Route category? .data s between t → (category? t).isSome → t ≠ s →
    (r.edge? s t).isSome

/-- All finds of the search over all edges, after the routes of data. -/
theorem foldl_addControl (hs : (category? start).isSome) (finds : List Find)
    (hfinds : ∀ f ∈ finds, g.Route category? .control start f.path f.target ∧
      category? f.target = some f.category ∧ f.target ≠ start)
    (h : g.Sound category? r) (hdata : g.CoversData category? r start) :
    g.Sound category? (finds.foldl (.addControl start) r) ∧
      r.Within (finds.foldl (.addControl start) r) ∧
      ∀ f ∈ finds, ((finds.foldl (.addControl start) r).edge? start f.target).isSome := by
  have hstep (r : ReducedGraph) (f : Find) (hf : f ∈ finds)
      (hkeeps : g.Sound category? r ∧ g.CoversData category? r start) :
      (g.Sound category? (r.addControl start f) ∧
        g.CoversData category? (r.addControl start f) start) ∧
      r.Within (r.addControl start f) ∧
        ((r.addControl start f).edge? start f.target).isSome := by
    obtain ⟨hsound, hdata⟩ := hkeeps
    obtain ⟨hroute, hcategory, hne⟩ := hfinds f hf
    have hwithin := within_addControl r start f
    refine ⟨⟨hsound.addControl hs hroute hcategory hne fun between hr => ?_, ?_⟩, hwithin,
      isSome_edge?_addControl ..⟩
    · exact hdata _ between hr (by rw [hcategory]; rfl) hne
    · exact fun t between hr hsome ht => hwithin.edge _ _ (hdata t between hr hsome ht)
  obtain ⟨⟨hsound, -⟩, hwithin, hedges⟩ := foldl_record hstep ⟨h, hdata⟩
  exact ⟨hsound, hwithin, hedges⟩

theorem searchFrom_eq (c : Category) :
    g.searchFrom category? start c r =
      (g.controlVisit category? (g.edgeCount + 1) [] start [start]).finds.foldl (.addControl start)
        ((g.dataFinds category? start (g.edgeCount + 1) [] start).foldl (.addData start)
          (r.addNode start c)) := by
  have hboth : g.searchFrom category? start c r =
      (g.controlFrom category? start (g.edgeCount + 1) [] start
        ⟨[start], g.dataFrom category? start (g.edgeCount + 1) [] start (r.addNode start c)⟩).reduced :=
    rfl
  rw [hboth, controlFrom_eq, dataFrom_eq]

/-- After both searches from a node it is linked to all that it has to be linked to. -/
theorem searchFrom_spec {c : Category} (hc : category? start = some c) (h : g.Sound category? r) :
    g.Sound category? (g.searchFrom category? start c r) ∧
      r.Within (g.searchFrom category? start c r) ∧
      ((g.searchFrom category? start c r).category? start).isSome ∧
      g.Covers category? (g.searchFrom category? start c r) start := by
  have hs : (category? start).isSome := by rw [hc]; rfl
  rw [searchFrom_eq]
  obtain ⟨hsound, hwithin, hedges⟩ := foldl_addData hs
    (g.dataFinds category? start (g.edgeCount + 1) [] start)
    (fun f hf => by
      obtain ⟨hroute, -, hcat, hne⟩ := (mem_dataFinds_start hs).mp hf
      exact ⟨hroute, hcat, hne⟩) (h.addNode hc)
  obtain ⟨hsound', hwithin', hedges'⟩ := foldl_addControl hs
    (g.controlVisit category? (g.edgeCount + 1) [] start [start]).finds
    (fun f hf => controlVisit_start_sound hf) hsound
    (fun t between hroute hsome hne => by
      obtain ⟨path, hnd, hroute⟩ := hroute.simple
      obtain ⟨category, hcat⟩ := Option.isSome_iff_exists.mp hsome
      exact hedges ⟨t, category, path⟩ ((mem_dataFinds_start hs).mpr ⟨hroute, hnd, hcat, hne⟩))
  refine ⟨hsound', ((r.within_addNode start c).trans hwithin).trans hwithin', ?_, ?_⟩
  · apply hwithin'.node
    apply hwithin.node
    rw [ReducedGraph.category?_addNode, if_pos rfl]
    rfl
  · intro t between hroute hsome hne
    obtain ⟨f, hf, rfl⟩ := controlVisit_finds hroute hsome hne
    exact hedges' f hf

/-! ### The whole graph -/

variable {arena : Arena}

theorem foldl_searchFrom (nodes : List NodeId) (h : g.Sound (g.categoryOf? arena) r) :
    let after := nodes.foldl (fun r start =>
      match g.categoryOf? arena start with
      | some c => g.searchFrom (g.categoryOf? arena) start c r
      | none => r) r
    g.Sound (g.categoryOf? arena) after ∧ r.Within after ∧
      ∀ s ∈ nodes, (g.categoryOf? arena s).isSome →
        (after.category? s).isSome ∧ g.Covers (g.categoryOf? arena) after s := by
  induction nodes generalizing r with
  | nil => exact ⟨h, .refl r, fun _ hs => nomatch hs⟩
  | cons start rest ih =>
    cases hc : g.categoryOf? arena start with
    | none =>
      obtain ⟨hsound, hwithin, hall⟩ := ih h
      simp only [List.foldl_cons, hc]
      refine ⟨hsound, hwithin, List.forall_mem_cons.mpr ⟨?_, hall⟩⟩
      intro hsome
      rw [hc] at hsome
      cases hsome
    | some c =>
      obtain ⟨hstep, hgrow, hnode, hcovers⟩ := searchFrom_spec hc h
      obtain ⟨hsound, hwithin, hall⟩ := ih hstep
      simp only [List.foldl_cons, hc]
      refine ⟨hsound, hgrow.trans hwithin, List.forall_mem_cons.mpr ⟨fun _ => ?_, hall⟩⟩
      exact ⟨hwithin.node start hnode, hcovers.mono hwithin⟩

theorem reduced_spec (g : BehaviorGraph) (arena : Arena) :
    g.Sound (g.categoryOf? arena) (g.reduced arena) ∧
      ∀ s ∈ g.nodes, (g.categoryOf? arena s).isSome →
        ((g.reduced arena).category? s).isSome ∧
          g.Covers (g.categoryOf? arena) (g.reduced arena) s := by
  rw [reduced_eq]
  obtain ⟨hsound, -, hall⟩ := foldl_searchFrom g.nodes sound_empty
  exact ⟨hsound, hall⟩

theorem reduced_sound (g : BehaviorGraph) (arena : Arena) :
    g.Sound (g.categoryOf? arena) (g.reduced arena) :=
  (reduced_spec g arena).1

theorem mem_nodes_of_categoryOf? {id : NodeId} (h : (g.categoryOf? arena id).isSome) :
    id ∈ g.nodes := by
  unfold categoryOf? at h
  split at h
  · next hc => simpa [contains] using hc
  · cases h

theorem category?_reduced (g : BehaviorGraph) (arena : Arena) (id : NodeId) :
    (g.reduced arena).category? id = g.categoryOf? arena id := by
  have hsound := reduced_sound g arena
  cases hc : g.categoryOf? arena id with
  | none =>
    cases hr : (g.reduced arena).category? id with
    | none => rfl
    | some c => rw [← hsound.node id c hr, hc]
  | some c =>
    have hsome : (g.categoryOf? arena id).isSome := by rw [hc]; rfl
    have hnode := ((reduced_spec g arena).2 id (mem_nodes_of_categoryOf? hsome) hsome).1
    obtain ⟨c', hr⟩ := Option.isSome_iff_exists.mp hnode
    rw [hr, ← hsound.node id c' hr, hc]

theorem reduced_covers (hs : (g.categoryOf? arena s).isSome) :
    g.Covers (g.categoryOf? arena) (g.reduced arena) s :=
  ((reduced_spec g arena).2 s (mem_nodes_of_categoryOf? hs) hs).2

/-- An edge of any kind stands for a route of that kind. -/
theorem Linked.route {e : ReducedEdge} (h : g.Linked category? s t e) :
    ∃ between, g.Route category? e.kind s between t := by
  cases h with
  | data route _ => exact route
  | control route _ => exact ⟨_, route⟩

theorem route_of_leads_reduced {kind : EdgeKind} (h : (g.reduced arena).Leads kind s t) :
    ∃ between, g.Route (g.categoryOf? arena) kind s between t := by
  obtain ⟨e, he, hk⟩ := h
  obtain ⟨-, -, -, hlinked⟩ := (reduced_sound g arena).edge s t e he
  obtain ⟨between, hroute⟩ := hlinked.route
  exact ⟨between, hroute.of_admits hk⟩

/-- **Between two different sensitive nodes, a step of a kind in the reduced graph is a route of
that kind in the graph.** -/
theorem leads_reduced {kind : EdgeKind} (hs : (g.categoryOf? arena s).isSome)
    (ht : (g.categoryOf? arena t).isSome) (hne : t ≠ s) :
    (g.reduced arena).Leads kind s t ↔
      ∃ between, g.Route (g.categoryOf? arena) kind s between t := by
  refine ⟨route_of_leads_reduced, fun ⟨between, hroute⟩ => ?_⟩
  obtain ⟨e, he⟩ := Option.isSome_iff_exists.mp
    (reduced_covers hs t between hroute.control ht hne)
  refine ⟨e, he, ?_⟩
  obtain ⟨-, -, -, hlinked⟩ := (reduced_sound g arena).edge s t e he
  cases hlinked with
  | data _ _ => exact .inr rfl
  | control _ noData =>
    cases kind with
    | control => exact .inl rfl
    | data => exact absurd hroute (noData between)

/-- A way to a sensitive node goes over a route to the first sensitive node on it, and from there
on in the reduced graph. -/
theorem way_from_first_sensitive {kind : EdgeKind} (ht : (g.categoryOf? arena t).isSome)
    (h : Relation.TransGen (g.Leads kind) s t) :
    ∃ between m, g.Route (g.categoryOf? arena) kind s between m ∧
      (g.categoryOf? arena m).isSome ∧
      Relation.ReflTransGen ((g.reduced arena).Leads kind) m t := by
  induction h using Relation.TransGen.head_induction_on with
  | single hl => exact ⟨[], t, .edge hl, ht, .refl⟩
  | @head s n hl _ ih =>
    obtain ⟨between, m, hroute, hm, hrest⟩ := ih
    cases hn : g.categoryOf? arena n with
    | none => exact ⟨n :: between, m, .cons hl hn hroute, hm, hrest⟩
    | some c =>
      have hsome : (g.categoryOf? arena n).isSome := by simp [hn]
      refine ⟨[], n, .edge hl, hsome, ?_⟩
      by_cases hmn : m = n
      · exact hmn ▸ hrest
      · exact .head ((leads_reduced hsome hm hmn).mpr ⟨between, hroute⟩) hrest

theorem way_of_way_reduced {kind : EdgeKind}
    (h : Relation.TransGen ((g.reduced arena).Leads kind) s t) :
    Relation.TransGen (g.Leads kind) s t := by
  refine Relation.TransGen.trans_induction_on h (fun hl => ?_) fun _ _ => .trans
  obtain ⟨between, hroute⟩ := route_of_leads_reduced hl
  exact hroute.walk.way

/-- **Between two different sensitive nodes, the reduced graph has the ways that the graph has.** -/
theorem way_reduced {kind : EdgeKind} (hs : (g.categoryOf? arena s).isSome)
    (ht : (g.categoryOf? arena t).isSome) (hne : s ≠ t) :
    Relation.TransGen ((g.reduced arena).Leads kind) s t ↔
      Relation.TransGen (g.Leads kind) s t := by
  refine ⟨way_of_way_reduced, fun h => ?_⟩
  obtain ⟨between, m, hroute, hm, hrest⟩ := way_from_first_sensitive ht h
  by_cases hms : m = s
  · have hor := Relation.reflTransGen_iff_eq_or_transGen.mp (hms ▸ hrest)
    exact hor.resolve_left fun he => hne he.symm
  · exact .head' ((leads_reduced hs hm hms).mpr ⟨between, hroute⟩) hrest

end PackageVet.BehaviorGraph

import Mathlib.Data.List.Nodup
import PackageVet.Proofs.Reduced.Exact
import PackageVet.Proofs.Reduced.Split

/-! What the edges of a reduced graph leave out.

An edge of data leaves out the nodes on all routes of data between its ends that come to no node
twice: nothing else is ever recorded on it (`Tight`), and each such route is (`CoversPaths`), since
what is recorded stays (`Keeps`). With the edges themselves (`leads_reduced`) this says all that a
reduced graph says of the graph it was made from (`reduce_summarises`). -/
namespace PackageVet

/-! ### Merging -/

theorem nodup_mergeIds {known : List NodeId} (ids : List NodeId) (h : known.Nodup) :
    (mergeIds known ids).Nodup := by
  induction ids generalizing known with
  | nil => exact h
  | cons id rest ih =>
    show (mergeIds (if id ∈ known then known else known ++ [id]) rest).Nodup
    apply ih
    split
    · exact h
    · next hid => simpa using List.Nodup.concat hid h

namespace ReducedGraph
variable {r r' r'' : ReducedGraph} {s t a b : NodeId} {kind : EdgeKind} {ids : List NodeId}

/-- Whether the edge between two nodes is there and leaves some nodes out. -/
def LeavesOut (r : ReducedGraph) (s t : NodeId) (ids : List NodeId) : Prop :=
  ∃ e, r.edge? s t = some e ∧ ids ⊆ e.elided

/-- Whether whatever an edge leaves out is left out in another graph. -/
def Keeps (r r' : ReducedGraph) : Prop := ∀ s t ids, r.LeavesOut s t ids → r'.LeavesOut s t ids

theorem Keeps.refl (r : ReducedGraph) : r.Keeps r := fun _ _ _ h => h

theorem Keeps.trans (h : r.Keeps r') (h' : r'.Keeps r'') : r.Keeps r'' :=
  fun s t ids hids => h' s t ids (h s t ids hids)

theorem keeps_foldl {α : Type} {step : ReducedGraph → α → ReducedGraph}
    (hstep : ∀ r x, Keeps r (step r x)) (xs : List α) (r : ReducedGraph) :
    r.Keeps (xs.foldl step r) :=
  List.foldlRecOn (motive := r.Keeps) _ _ (.refl r) fun _ h x _ => h.trans (hstep _ x)

theorem leavesOut_addEdge_self (r : ReducedGraph) (s t : NodeId) (kind : EdgeKind)
    (ids : List NodeId) : (r.addEdge s t kind ids).LeavesOut s t ids := by
  cases h : r.edge? s t with
  | none => exact ⟨_, edge?_addEdge_of_none h kind ids, List.Subset.refl ids⟩
  | some known =>
    exact ⟨_, edge?_addEdge_of_some h kind ids, fun n hn => mem_mergeIds.mpr (.inr hn)⟩

theorem keeps_addEdge (r : ReducedGraph) (a b : NodeId) (kind : EdgeKind) (ids : List NodeId) :
    r.Keeps (r.addEdge a b kind ids) := by
  rintro s t left ⟨e, he, hleft⟩
  by_cases hst : s = a ∧ t = b
  · obtain ⟨rfl, rfl⟩ := hst
    exact ⟨_, edge?_addEdge_of_some he kind ids, fun n hn => mem_mergeIds.mpr (.inl (hleft hn))⟩
  · exact ⟨e, (edge?_addEdge_of_ne hst kind ids).trans he, hleft⟩

theorem keeps_addData (start : NodeId) (r : ReducedGraph) (f : Find) :
    r.Keeps (r.addData start f) :=
  keeps_addEdge (r.addNode f.target f.category) start f.target .data f.path

theorem keeps_addControl (start : NodeId) (r : ReducedGraph) (f : Find) :
    r.Keeps (r.addControl start f) := by
  unfold addControl
  split
  · exact .refl r
  · exact keeps_addEdge (r.addNode f.target f.category) start f.target .control f.path

end ReducedGraph

namespace BehaviorGraph
variable {g : BehaviorGraph} {category? : NodeId → Option Category} {r : ReducedGraph}
  {start s t : NodeId} {f : Find} {c : Category}

/-! ### Nothing else is left out -/

/-- Whether edges of data leave out each node once, and only nodes on routes of data without a
repeated node. -/
def Tight (g : BehaviorGraph) (category? : NodeId → Option Category) (r : ReducedGraph) : Prop :=
  ∀ s t elided, r.edge? s t = some ⟨.data, elided⟩ → elided.Nodup ∧
    ∀ n ∈ elided, ∃ between, g.Route category? .data s between t ∧ between.Nodup ∧ n ∈ between

theorem tight_empty : g.Tight category? {} := fun _ _ _ h => nomatch h

/-- An edge of control that became one of data would mix the two; but it denies the route. -/
theorem Tight.addData (h : g.Tight category? r) (hsound : g.Sound category? r)
    (hroute : g.Route category? .data start f.path f.target) (hnodup : f.path.Nodup) :
    g.Tight category? (r.addData start f) := by
  intro s t elided he
  by_cases hst : s = start ∧ t = f.target
  · obtain ⟨rfl, rfl⟩ := hst
    cases hknown : r.edge? s f.target with
    | none =>
      rw [ReducedGraph.addData, ReducedGraph.edge?_addEdge_of_none (by simpa using hknown)] at he
      cases he
      exact ⟨hnodup, fun n hn => ⟨f.path, hroute, hnodup, hn⟩⟩
    | some known =>
      rw [ReducedGraph.addData, ReducedGraph.edge?_addEdge_of_some (by simpa using hknown)] at he
      obtain ⟨-, -, -, hlinked⟩ := hsound.edge _ _ _ hknown
      cases hlinked with
      | data route left =>
        cases he
        obtain ⟨hold, hpaths⟩ := h _ _ _ hknown
        refine ⟨nodup_mergeIds _ hold, fun n hn => ?_⟩
        rcases mem_mergeIds.mp hn with hn | hn
        · exact hpaths n hn
        · exact ⟨f.path, hroute, hnodup, hn⟩
      | control _ noData => exact absurd hroute (noData _)
  · rw [ReducedGraph.addData, ReducedGraph.edge?_addEdge_of_ne hst] at he
    exact h s t elided he

theorem Tight.addControl (h : g.Tight category? r) : g.Tight category? (r.addControl start f) := by
  unfold ReducedGraph.addControl
  split
  · exact h
  · next hnone =>
    intro s t elided he
    by_cases hst : s = start ∧ t = f.target
    · obtain ⟨rfl, rfl⟩ := hst
      rw [ReducedGraph.edge?_addEdge_of_none (by simpa using hnone)] at he
      cases he
    · rw [ReducedGraph.edge?_addEdge_of_ne hst] at he
      exact h s t elided he

theorem Tight.searchFrom (h : g.Tight category? r) (hsound : g.Sound category? r)
    (hc : category? start = some c) : g.Tight category? (g.searchFrom category? start c r) := by
  have hs : (category? start).isSome := by rw [hc]; rfl
  rw [searchFrom_eq]
  refine List.foldlRecOn (motive := g.Tight category?) _ _ ?_ fun _ htight _ _ => htight.addControl
  refine (List.foldlRecOn (motive := fun r => g.Sound category? r ∧ g.Tight category? r) _ _
    ⟨hsound.addNode hc, h⟩ ?_).2
  rintro r ⟨hsound, htight⟩ f hf
  obtain ⟨hroute, hnodup, hcategory, hne⟩ := (mem_dataFinds_start hs).mp hf
  exact ⟨hsound.addData hs hroute hcategory hne, htight.addData hsound hroute hnodup⟩

/-! ### Every route is recorded -/

/-- Whether all that the routes of data from a node go over is left out on its edges. -/
def CoversPaths (g : BehaviorGraph) (category? : NodeId → Option Category) (r : ReducedGraph)
    (s : NodeId) : Prop :=
  ∀ t between, g.Route category? .data s between t → between.Nodup → (category? t).isSome → t ≠ s →
    r.LeavesOut s t between

theorem keeps_searchFrom (c : Category) (r : ReducedGraph) :
    r.Keeps (g.searchFrom category? start c r) := by
  rw [searchFrom_eq]
  exact (ReducedGraph.keeps_foldl (ReducedGraph.keeps_addData start) _ (r.addNode start c)).trans
    (ReducedGraph.keeps_foldl (ReducedGraph.keeps_addControl start) _ _)

theorem coversPaths_searchFrom (hs : (category? start).isSome) (c : Category) (r : ReducedGraph) :
    g.CoversPaths category? (g.searchFrom category? start c r) start := by
  intro t between hroute hnodup hsome hne
  obtain ⟨category, hcategory⟩ := Option.isSome_iff_exists.mp hsome
  have hfind : (⟨t, category, between⟩ : Find) ∈
      g.dataFinds category? start (g.edgeCount + 1) [] start :=
    (mem_dataFinds_start hs).mpr ⟨hroute, hnodup, hcategory, hne⟩
  -- the find is recorded, and what comes after keeps it
  obtain ⟨before, after, hsplit⟩ := List.append_of_mem hfind
  rw [searchFrom_eq, hsplit, List.foldl_append, List.foldl_cons]
  refine ReducedGraph.keeps_foldl (ReducedGraph.keeps_addControl start) _ _ _ _ _ ?_
  refine ReducedGraph.keeps_foldl (ReducedGraph.keeps_addData start) after _ _ _ _ ?_
  exact ReducedGraph.leavesOut_addEdge_self ..

/-! ### The whole graph -/

variable {arena : Arena}

theorem reduced_tight (g : BehaviorGraph) (arena : Arena) :
    g.Tight (g.categoryOf? arena) (g.reduced arena) := by
  rw [reduced_eq]
  refine (List.foldlRecOn (motive := fun r => g.Sound (g.categoryOf? arena) r ∧
    g.Tight (g.categoryOf? arena) r) _ _ ⟨sound_empty, tight_empty⟩ ?_).2
  rintro r ⟨hsound, htight⟩ start -
  cases hc : g.categoryOf? arena start with
  | none => exact ⟨hsound, htight⟩
  | some c => exact ⟨(searchFrom_spec hc hsound).1, htight.searchFrom hsound hc⟩

theorem reduced_coversPaths (hs : (g.categoryOf? arena s).isSome) :
    g.CoversPaths (g.categoryOf? arena) (g.reduced arena) s := by
  intro t between hroute hnodup hsome hne
  obtain ⟨c, hc⟩ := Option.isSome_iff_exists.mp hs
  obtain ⟨before, after, hsplit⟩ := List.append_of_mem (mem_nodes_of_categoryOf? hs)
  rw [reduced_eq, hsplit, List.foldl_append, List.foldl_cons]
  refine ReducedGraph.keeps_foldl (fun r start => ?_) after _ s t between ?_
  · split
    · exact keeps_searchFrom _ r
    · exact .refl r
  · simp only [hc]
    exact coversPaths_searchFrom hs c _ t between hroute hnodup hsome hne

/-! ### What the reduced graph says -/

/-- A route that comes to no node twice, not even to its ends. -/
structure SimpleRoute (g : BehaviorGraph) (category? : NodeId → Option Category) (kind : EdgeKind)
    (s : NodeId) (between : List NodeId) (t : NodeId) : Prop
    extends g.Route category? kind s between t where
  once : (s :: (between ++ [t])).Nodup

/-- Between different sensitive nodes, the ends are not on the way. -/
theorem simpleRoute_iff {kind : EdgeKind} {between : List NodeId} (hs : (category? s).isSome)
    (ht : (category? t).isSome) (hne : s ≠ t) :
    g.SimpleRoute category? kind s between t ↔
      g.Route category? kind s between t ∧ between.Nodup := by
  constructor
  · rintro ⟨hroute, honce⟩
    exact ⟨hroute, (List.nodup_append.mp (List.nodup_cons.mp honce).2).1⟩
  · rintro ⟨hroute, hnodup⟩
    have houtside (n : NodeId) (hn : (category? n).isSome) : n ∉ between := by
      intro hmem
      rw [hroute.plain n hmem] at hn
      cases hn
    refine ⟨hroute, List.nodup_cons.mpr ⟨?_, ?_⟩⟩
    · simp [houtside s hs, hne]
    · simpa using List.Nodup.concat (houtside t ht) hnodup

end BehaviorGraph

/-- What a reduced graph has to say of the graph that it was made from. Its nodes are the sensitive
ones, and it links two of them when a route leads from one to the other: by an edge of data when a
route of data does, with the nodes of all such routes left out, else by one of control, with the
nodes of one route left out. -/
structure ReducedGraph.Summarises (r : ReducedGraph) (g : BehaviorGraph) (arena : Arena) :
    Prop where
  once : r.nodes.keys.Nodup
  nodes : ∀ id c, r.category? id = some c ↔ g.SensitiveAs arena id c
  sensitive : ∀ id, (g.categoryOf? arena id).isSome ↔ ∃ c, g.SensitiveAs arena id c
  noLoop : ∀ s, r.edge? s s = none
  ends : ∀ s t, (r.edge? s t).isSome →
    (g.categoryOf? arena s).isSome ∧ (g.categoryOf? arena t).isSome
  data : ∀ s t, (g.categoryOf? arena s).isSome → (g.categoryOf? arena t).isSome → s ≠ t →
    ((∃ elided, r.edge? s t = some ⟨.data, elided⟩) ↔
      ∃ between, g.Route (g.categoryOf? arena) .data s between t)
  control : ∀ s t, (g.categoryOf? arena s).isSome → (g.categoryOf? arena t).isSome → s ≠ t →
    ((∃ elided, r.edge? s t = some ⟨.control, elided⟩) ↔
      (¬ ∃ between, g.Route (g.categoryOf? arena) .data s between t) ∧
        ∃ between, g.Route (g.categoryOf? arena) .control s between t)
  dataElided : ∀ s t elided, r.edge? s t = some ⟨.data, elided⟩ → elided.Nodup ∧
    ∀ n, n ∈ elided ↔
      ∃ between, g.SimpleRoute (g.categoryOf? arena) .data s between t ∧ n ∈ between
  controlElided : ∀ s t elided, r.edge? s t = some ⟨.control, elided⟩ →
    g.Route (g.categoryOf? arena) .control s elided t

namespace BehaviorGraph
variable {g : BehaviorGraph} {arena : Arena} {s t : NodeId} {elided : List NodeId}

theorem mem_elided_reduced (h : (g.reduced arena).edge? s t = some ⟨.data, elided⟩) (n : NodeId) :
    n ∈ elided ↔
      ∃ between, g.SimpleRoute (g.categoryOf? arena) .data s between t ∧ n ∈ between := by
  obtain ⟨hne, hs, ht, -⟩ := (reduced_sound g arena).edge s t _ h
  simp only [simpleRoute_iff hs ht hne]
  constructor
  · intro hn
    obtain ⟨between, hroute, hnodup, hmem⟩ := (reduced_tight g arena s t elided h).2 n hn
    exact ⟨between, ⟨hroute, hnodup⟩, hmem⟩
  · rintro ⟨between, ⟨hroute, hnodup⟩, hmem⟩
    obtain ⟨e, he, hleft⟩ := reduced_coversPaths hs t between hroute hnodup ht hne.symm
    cases h.symm.trans he
    exact hleft hmem

theorem data_edge?_reduced (hs : (g.categoryOf? arena s).isSome)
    (ht : (g.categoryOf? arena t).isSome) (hne : s ≠ t) :
    (∃ elided, (g.reduced arena).edge? s t = some ⟨.data, elided⟩) ↔
      ∃ between, g.Route (g.categoryOf? arena) .data s between t := by
  rw [← leads_reduced hs ht hne.symm]
  constructor
  · rintro ⟨elided, he⟩
    exact ⟨_, he, .inr rfl⟩
  · rintro ⟨⟨kind, elided⟩, he, hk⟩
    cases EdgeKind.data_admits.mp hk
    exact ⟨elided, he⟩

/-- Where no route of data leads, an edge can only be one of control. -/
theorem control_edge?_reduced (hs : (g.categoryOf? arena s).isSome)
    (ht : (g.categoryOf? arena t).isSome) (hne : s ≠ t) :
    (∃ elided, (g.reduced arena).edge? s t = some ⟨.control, elided⟩) ↔
      (¬ ∃ between, g.Route (g.categoryOf? arena) .data s between t) ∧
        ∃ between, g.Route (g.categoryOf? arena) .control s between t := by
  rw [← data_edge?_reduced hs ht hne, ← leads_reduced hs ht hne.symm]
  constructor
  · rintro ⟨elided, he⟩
    refine ⟨?_, _, he, .inl rfl⟩
    rintro ⟨other, hother⟩
    cases he.symm.trans hother
  · rintro ⟨hnodata, ⟨kind, elided⟩, he, -⟩
    cases kind with
    | control => exact ⟨elided, he⟩
    | data => exact absurd ⟨elided, he⟩ hnodata

theorem route_of_control_edge? (h : (g.reduced arena).edge? s t = some ⟨.control, elided⟩) :
    g.Route (g.categoryOf? arena) .control s elided t := by
  obtain ⟨-, -, -, hlinked⟩ := (reduced_sound g arena).edge s t _ h
  cases hlinked with
  | control route _ => exact route

/-- **The reduced graph of a graph whose nodes were split says exactly which routes lead from one
sensitive node to another.** -/
theorem reduce_summarises {σ : Type} (s : Splitting) :
    ∃ r, (∀ x : σ, (s.splitAll.graph.reduce s.splitAll.arena .unlimited).run x = (.ok r, x)) ∧
      r.Summarises s.splitAll.graph s.splitAll.arena := by
  have hsound := reduced_sound s.splitAll.graph s.splitAll.arena
  have hrun (x : σ) : (s.splitAll.graph.reduce s.splitAll.arena .unlimited).run x =
      (.ok (s.splitAll.graph.reduced s.splitAll.arena), x) := by
    rw [reduce_unlimited]
    rfl
  refine ⟨_, hrun, hsound.built.nodup_keys, fun id c => ?_, fun id => ?_, fun s => ?_,
    fun s t h => ?_, fun _ _ => data_edge?_reduced, fun _ _ => control_edge?_reduced,
    fun s t elided h => ⟨(reduced_tight _ _ s t elided h).1, mem_elided_reduced h⟩,
    fun _ _ _ => route_of_control_edge?⟩
  · rw [category?_reduced]
    exact Splitting.categoryOf?_splitAll _ id c
  · rw [Option.isSome_iff_exists]
    exact exists_congr fun c => Splitting.categoryOf?_splitAll s id c
  · rw [Option.eq_none_iff_forall_ne_some]
    intro e he
    exact (hsound.edge s s e he).1 rfl
  · obtain ⟨e, he⟩ := Option.isSome_iff_exists.mp h
    obtain ⟨-, hs, ht, -⟩ := hsound.edge s t e he
    exact ⟨hs, ht⟩

-- two ways for the data of a file, and one more for control alone
example :
    let g : BehaviorGraph :=
      { entrance := 1
        nodes := [1, 2, 3, 4, 5]
        edges := ⟨[((1, 2), ["DDG"]), ((1, 3), ["DDG"]), ((1, 4), ["CFG"]), ((2, 5), ["DDG"]),
          ((3, 5), ["DDG"]), ((3, 2), ["DDG"]), ((4, 5), ["DDG"])]⟩ }
    let category? (id : NodeId) : Option Category :=
      if id = 1 then some .readFile else if id = 5 then some .httpRequest else none
    (g.searchFrom category? 1 .readFile {}).edge? 1 5 = some ⟨.data, [2, 3]⟩ := by
  decide

end BehaviorGraph

end PackageVet

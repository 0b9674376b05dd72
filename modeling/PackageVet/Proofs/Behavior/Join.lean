import PackageVet.Proofs.Behavior

/-! Joining is a union.

The graph that two joined graphs give has the nodes, edges, tags and successors of the first, and
after them those of the second that are new (`IsUnion`). The nodes at which edges of the second
start are gone through one by one, its own nodes first; in what order the others come makes no
difference but to the order of predecessors (`joinAlong`, `IsUnion.alike`). A graph that is part of
another adds nothing to it (`joinAlong_of_partOf`), so joining it once more changes nothing. -/
namespace PackageVet

/-! ### What is new, put at the end -/

theorem foldl_addNew {α : Type} [DecidableEq α] {xs : List α} (h : xs.Nodup) (known : List α) :
    xs.foldl (fun known x => if x ∈ known then known else known ++ [x]) known =
      known ++ xs.filter (· ∉ known) := by
  induction xs generalizing known with
  | nil => simp
  | cons x rest ih =>
    obtain ⟨hx, hrest⟩ := List.nodup_cons.mp h
    rw [List.foldl_cons, ih hrest]
    by_cases hmem : x ∈ known
    · simp [hmem]
    · -- what comes later is not this one
      have hlater : rest.filter (· ∉ known ++ [x]) = rest.filter (· ∉ known) := by
        apply List.filter_congr
        intro y hy
        have hne : y ≠ x := fun he => hx (he ▸ hy)
        simp [hne]
      rw [if_neg hmem, hlater]
      simp [hmem]

/-- What a view of a fold is, if only one of the members changes it, and that again as often as it
likes. -/
theorem foldl_view {σ α β : Type} [DecidableEq α] {step : σ → α → σ} {x : α} (view : σ → β)
    (change : β → β) (hstep : ∀ s y, view (step s y) = if y = x then change (view s) else view s)
    (hagain : ∀ v, change (change v) = change v) (ys : List α) (s : σ) :
    view (ys.foldl step s) = if x ∈ ys then change (view s) else view s := by
  induction ys generalizing s with
  | nil => rfl
  | cons y rest ih =>
    rw [List.foldl_cons, ih, hstep]
    by_cases hy : y = x
    · subst hy
      simp [hagain]
    · simp [hy, Ne.symm hy]

theorem mergeTags_eq {tags : List String} (h : tags.Nodup) (known : List String) :
    mergeTags known tags = known ++ tags.filter (· ∉ known) := foldl_addNew h known

namespace BehaviorGraph
variable {g h k other : BehaviorGraph} {source a b s t : NodeId} {tags : List String}
  {order : List NodeId}

theorem addNode_eq (g : BehaviorGraph) (id : NodeId) :
    g.addNode id = { g with nodes := if id ∈ g.nodes then g.nodes else g.nodes ++ [id] } := by
  unfold addNode
  split <;> rfl

/-- Adding nodes changes nothing but the nodes. -/
theorem foldl_addNode_eq (ids : List NodeId) (g : BehaviorGraph) :
    ids.foldl addNode g =
      { g with
        nodes := ids.foldl (fun known id => if id ∈ known then known else known ++ [id])
          g.nodes } := by
  induction ids generalizing g with
  | nil => rfl
  | cons id rest ih => rw [List.foldl_cons, ih, addNode_eq, List.foldl_cons]

theorem nodes_foldl_addNode {ids : List NodeId} (h : ids.Nodup) (g : BehaviorGraph) :
    (ids.foldl addNode g).nodes = g.nodes ++ ids.filter (· ∉ g.nodes) := by
  rw [foldl_addNode_eq]
  exact foldl_addNew h g.nodes

theorem successors_addEdge (g : BehaviorGraph) (s t : NodeId) (tags : List String) (a : NodeId) :
    (g.addEdge s t tags).successors a =
      if a = s then if t ∈ g.successors a then g.successors a else g.successors a ++ [t]
      else g.successors a := by
  refine (Edges.successors_insert g.edges s t _ a).trans ?_
  unfold successors
  by_cases ha : a = s
  · subst ha
    simp [Edges.mem_successors]
  · simp [ha]

/-- An edge that has all of the tags already is not changed by adding it. -/
theorem addEdge_of_subset {known : List String} (h : g.tags? s t = some known)
    (hsub : tags ⊆ known) : g.addEdge s t tags = g := by
  have hedges : g.edges.insert (s, t) (mergeTags ((g.tags? s t).getD []) tags) = g.edges := by
    rw [h, Option.getD_some, mergeTags_of_subset hsub]
    exact Table.insert_of_get? h
  show { g with edges := g.edges.insert (s, t) (mergeTags ((g.tags? s t).getD []) tags) } = g
  rw [hedges]

/-! ### The edges that start at a node -/

/-- Adds the edges of another graph that start at a node. -/
def offer (other g : BehaviorGraph) (source : NodeId) : BehaviorGraph :=
  (other.successors source).foldl
    (fun g target => g.addEdge source target ((other.tags? source target).getD [])) g

/-- The tags of an edge that has some already and is given more. -/
def moreTags (more known : Option (List String)) : Option (List String) :=
  match more with
  | some tags => some (mergeTags (known.getD []) tags)
  | none => known

theorem mem_successors_iff : t ∈ g.successors s ↔ ∃ tags, g.tags? s t = some tags := by
  rw [← Option.isSome_iff_exists]
  exact Edges.mem_successors.trans mem_keys_edges

theorem tags?_offer (other g : BehaviorGraph) (source a b : NodeId) :
    (other.offer g source).tags? a b =
      if source = a then moreTags (other.tags? a b) (g.tags? a b) else g.tags? a b := by
  have hfold : other.offer g source =
      ((other.successors source).map fun target =>
        ((source, target), (other.tags? source target).getD [])).foldl
        (fun g e => g.addEdge e.1.1 e.1.2 e.2) g := by
    rw [List.foldl_map]
    rfl
  have honly : ∀ e ∈ (other.successors source).map fun target =>
      ((source, target), (other.tags? source target).getD []), e.1 = (a, b) →
        e.2 = (other.tags? a b).getD [] := by
    intro e he hkey
    obtain ⟨target, -, rfl⟩ := List.mem_map.mp he
    cases hkey
    rfl
  rw [hfold, tags?_foldl_addEdge honly]
  by_cases ha : source = a
  · subst ha
    cases htags : other.tags? source b with
    | none => simp [moreTags, mem_successors_iff, htags]
    | some tags => simp [moreTags, mem_successors_iff, htags]
  · simp [ha]

theorem successors_offer (hother : other.WellFormed) (g : BehaviorGraph) (source a : NodeId) :
    (other.offer g source).successors a =
      if source = a then g.successors a ++ (other.successors a).filter (· ∉ g.successors a)
      else g.successors a := by
  unfold offer
  by_cases ha : source = a
  · subst ha
    rw [if_pos rfl, ← foldl_addNew (hother.nodup_successors source)]
    refine (List.foldl_hom (fun (g : BehaviorGraph) => g.successors source) fun g target => ?_).symm
    rw [successors_addEdge, if_pos rfl]
  · rw [if_neg ha]
    refine List.foldlRecOn (motive := fun (h : BehaviorGraph) => h.successors a = g.successors a)
      _ _ rfl fun h hh target _ => ?_
    rw [successors_addEdge, if_neg (Ne.symm ha), hh]

theorem subset_moreTags (tags : List String) (known : Option (List String)) :
    ∃ all, moreTags (some tags) known = some all ∧ tags ⊆ all :=
  ⟨mergeTags (known.getD []) tags, rfl, fun _ htag => mem_mergeTags.mpr (.inr htag)⟩

theorem moreTags_again (more known : Option (List String)) :
    moreTags more (moreTags more known) = moreTags more known := by
  cases more with
  | none => rfl
  | some tags =>
    obtain ⟨all, hall, hsub⟩ := subset_moreTags tags known
    rw [hall]
    exact congrArg some (mergeTags_of_subset hsub)

theorem tags?_foldl_offer (sources : List NodeId) (g : BehaviorGraph) :
    (sources.foldl other.offer g).tags? a b =
      if a ∈ sources then moreTags (other.tags? a b) (g.tags? a b) else g.tags? a b :=
  foldl_view (fun (g : BehaviorGraph) => g.tags? a b) (moreTags (other.tags? a b))
    (fun g source => tags?_offer other g source a b) (moreTags_again _) sources g

theorem successors_foldl_offer (hother : other.WellFormed) (sources : List NodeId)
    (g : BehaviorGraph) :
    (sources.foldl other.offer g).successors a =
      if a ∈ sources then g.successors a ++ (other.successors a).filter (· ∉ g.successors a)
      else g.successors a := by
  refine foldl_view (fun (g : BehaviorGraph) => g.successors a)
    (fun known => known ++ (other.successors a).filter (· ∉ known))
    (fun g source => successors_offer hother g source a) (fun known => ?_) sources g
  -- all of them are there after the first time
  rw [List.append_right_eq_self, List.filter_eq_nil_iff]
  intro target htarget
  by_cases hknown : target ∈ known <;> simp [htarget, hknown]

theorem withoutEdges_foldl_offer (sources : List NodeId) (g : BehaviorGraph) :
    (sources.foldl other.offer g).withoutEdges = g.withoutEdges := by
  refine List.foldlRecOn (motive := fun (h : BehaviorGraph) => h.withoutEdges = g.withoutEdges)
    _ _ rfl fun h hh source _ => ?_
  exact List.foldlRecOn (motive := fun (h : BehaviorGraph) => h.withoutEdges = g.withoutEdges)
    _ _ hh fun _ hk _ _ => hk

theorem WellFormed.foldl_offer (hg : g.WellFormed) (other : BehaviorGraph)
    (sources : List NodeId) : (sources.foldl other.offer g).WellFormed :=
  hg.foldl (fun _ _ hh => hh.foldl (fun _ _ hk => hk.addEdge _ _ _) _) sources

/-- Edges that are there already, with their tags, add nothing. -/
theorem offer_of_tags (h : ∀ t tags, other.tags? source t = some tags →
      ∃ more, g.tags? source t = some more ∧ tags ⊆ more) : other.offer g source = g := by
  refine List.foldlRecOn (motive := (· = g)) _ _ rfl fun k hk target htarget => ?_
  obtain ⟨tags, htags⟩ := mem_successors_iff.mp htarget
  obtain ⟨more, hmore, hsub⟩ := h target tags htags
  rw [hk, htags]
  exact addEdge_of_subset hmore hsub

/-! ### Unions -/

/-- The nodes at which edges start, each once. -/
structure Enumerates (g : BehaviorGraph) (order : List NodeId) : Prop where
  nodup : order.Nodup
  mem : ∀ id, id ∈ order ↔ g.successors id ≠ []

/-- The union with another graph, whose nodes are gone through first for the edges that start at
them, and then once more all nodes at which edges start, in an order. -/
def joinAlong (g other : BehaviorGraph) (order : List NodeId) : BehaviorGraph :=
  if g.contains other.entrance then g
  else (other.nodes ++ order).foldl other.offer (other.nodes.foldl addNode g)

/-- Whether a graph is another one with all that a second one has and it has not. -/
structure IsUnion (g other union : BehaviorGraph) : Prop where
  entrance : union.entrance = g.entrance
  returns : union.returns = g.returns
  nodes : union.nodes = g.nodes ++ other.nodes.filter (· ∉ g.nodes)
  edge : ∀ s t, union.hasEdge s t = true ↔ g.hasEdge s t = true ∨ other.hasEdge s t = true
  tags : ∀ s t, (union.tags? s t).getD [] = (g.tags? s t).getD [] ++
    ((other.tags? s t).getD []).filter (· ∉ (g.tags? s t).getD [])
  successors : ∀ s, union.successors s =
    g.successors s ++ (other.successors s).filter (· ∉ g.successors s)
  predecessors : ∀ t, (union.predecessors t).Perm
    (g.predecessors t ++ (other.predecessors t).filter (· ∉ g.predecessors t))

/-- Whether two graphs are the same but for the order of predecessors. -/
structure Alike (g h : BehaviorGraph) : Prop where
  entrance : g.entrance = h.entrance
  returns : g.returns = h.returns
  nodes : g.nodes = h.nodes
  tags : ∀ s t, g.tags? s t = h.tags? s t
  successors : ∀ s, g.successors s = h.successors s
  predecessors : ∀ t, (g.predecessors t).Perm (h.predecessors t)

theorem IsUnion.alike (hg : IsUnion k other g) (hh : IsUnion k other h) : g.Alike h where
  entrance := hg.entrance.trans hh.entrance.symm
  returns := hg.returns.trans hh.returns.symm
  nodes := hg.nodes.trans hh.nodes.symm
  tags s t := by
    have hedge := (hg.edge s t).trans (hh.edge s t).symm
    have htags := (hg.tags s t).trans (hh.tags s t).symm
    unfold hasEdge at hedge
    cases hgt : g.tags? s t <;> cases hht : h.tags? s t <;> simp_all
  successors s := (hg.successors s).trans (hh.successors s).symm
  predecessors t := (hg.predecessors t).trans (hh.predecessors t).symm

/-! ### Joining in an order -/

theorem joinAlong_eq (hnew : other.entrance ∉ g.nodes) (order : List NodeId) :
    g.joinAlong other order =
      (other.nodes ++ order).foldl other.offer (other.nodes.foldl addNode g) := by
  unfold joinAlong contains
  rw [if_neg (by simpa using hnew)]

theorem Enumerates.mem_sources (h : other.Enumerates order) (htags : other.tags? s t = some tags) :
    s ∈ other.nodes ++ order := by
  refine List.mem_append_right _ ((h.mem s).mpr ?_)
  exact List.ne_nil_of_mem (mem_successors_iff.mpr ⟨tags, htags⟩)

theorem tags?_joinAlong (hnew : other.entrance ∉ g.nodes) (horder : other.Enumerates order) :
    (g.joinAlong other order).tags? s t = moreTags (other.tags? s t) (g.tags? s t) := by
  have hadd : (other.nodes.foldl addNode g).tags? s t = g.tags? s t := by
    rw [foldl_addNode_eq]
    rfl
  rw [joinAlong_eq hnew, tags?_foldl_offer, hadd]
  cases htags : other.tags? s t with
  | none => simp [moreTags]
  | some tags => rw [if_pos (horder.mem_sources htags)]

theorem successors_joinAlong (hother : other.WellFormed) (hnew : other.entrance ∉ g.nodes)
    (horder : other.Enumerates order) (s : NodeId) :
    (g.joinAlong other order).successors s =
      g.successors s ++ (other.successors s).filter (· ∉ g.successors s) := by
  have hadd : (other.nodes.foldl addNode g).successors s = g.successors s := by
    rw [foldl_addNode_eq]
    rfl
  rw [joinAlong_eq hnew, successors_foldl_offer hother, hadd]
  split
  · rfl
  · next hs =>
    have hnone : other.successors s = [] := by
      by_contra hne
      exact hs (List.mem_append_right _ ((horder.mem s).mpr hne))
    simp [hnone]

theorem withoutEdges_joinAlong (hnew : other.entrance ∉ g.nodes) (order : List NodeId) :
    (g.joinAlong other order).withoutEdges = (other.nodes.foldl addNode g).withoutEdges := by
  rw [joinAlong_eq hnew, withoutEdges_foldl_offer]

theorem WellFormed.joinAlong (hg : g.WellFormed) (other : BehaviorGraph) (order : List NodeId) :
    (g.joinAlong other order).WellFormed := by
  unfold BehaviorGraph.joinAlong
  split
  · exact hg
  · exact (hg.foldl (fun _ id hh => hh.addNode id) _).foldl_offer other _

theorem mem_predecessors : s ∈ g.predecessors t ↔ g.hasEdge s t = true :=
  Edges.mem_predecessors.trans mem_keys_edges

theorem WellFormed.nodup_predecessors (hg : g.WellFormed) (t : NodeId) :
    (g.predecessors t).Nodup := by
  rw [List.nodup_iff_count_le_one]
  intro s
  rw [hg.count_predecessors]
  split <;> omega

/-- The predecessors in a graph that has the edges of two. -/
theorem perm_predecessors (hg : g.WellFormed) (hother : other.WellFormed) (hk : k.WellFormed)
    (hedge : ∀ s t, k.hasEdge s t = true ↔ g.hasEdge s t = true ∨ other.hasEdge s t = true)
    (t : NodeId) :
    (k.predecessors t).Perm
      (g.predecessors t ++ (other.predecessors t).filter (· ∉ g.predecessors t)) := by
  have hnodup : (g.predecessors t ++
      (other.predecessors t).filter (· ∉ g.predecessors t)).Nodup := by
    refine List.nodup_append.mpr
      ⟨hg.nodup_predecessors t, (hother.nodup_predecessors t).filter _, ?_⟩
    rintro s hs s' hs' rfl
    simp [hs] at hs'
  refine (List.perm_ext_iff_of_nodup (hk.nodup_predecessors t) hnodup).mpr fun s => ?_
  rw [mem_predecessors, hedge]
  by_cases hs : g.hasEdge s t = true
  · simp [mem_predecessors, hs]
  · simp [mem_predecessors, hs]

theorem isSome_moreTags (more known : Option (List String)) :
    (moreTags more known).isSome = true ↔ known.isSome = true ∨ more.isSome = true := by
  cases more <;> simp [moreTags]

theorem hasEdge_joinAlong (hnew : other.entrance ∉ g.nodes) (horder : other.Enumerates order)
    (s t : NodeId) : (g.joinAlong other order).hasEdge s t = true ↔
      g.hasEdge s t = true ∨ other.hasEdge s t = true := by
  unfold hasEdge
  rw [tags?_joinAlong hnew horder, isSome_moreTags]

/-- In whatever order the nodes are gone through, joining makes the union. -/
theorem isUnion_joinAlong (hg : g.WellFormed) (hother : other.WellFormed)
    (hnew : other.entrance ∉ g.nodes) (horder : other.Enumerates order) :
    g.IsUnion other (g.joinAlong other order) := by
  have hrest := withoutEdges_joinAlong hnew order
  have hkept : (other.nodes.foldl addNode g).entrance = g.entrance ∧
      (other.nodes.foldl addNode g).returns = g.returns := by
    rw [foldl_addNode_eq]
    exact ⟨rfl, rfl⟩
  constructor
  · exact (congrArg BehaviorGraph.entrance hrest).trans hkept.1
  · exact (congrArg BehaviorGraph.returns hrest).trans hkept.2
  · exact (congrArg BehaviorGraph.nodes hrest).trans (nodes_foldl_addNode hother.nodes g)
  · exact hasEdge_joinAlong hnew horder
  · intro s t
    rw [tags?_joinAlong hnew horder]
    cases htags : other.tags? s t with
    | none => simp [moreTags]
    | some tags => simp [moreTags, mergeTags_eq (hother.tags s t tags htags)]
  · exact successors_joinAlong hother hnew horder
  · exact perm_predecessors hg hother (hg.joinAlong other order) (hasEdge_joinAlong hnew horder)

/-- A graph that is part of another adds nothing to it. -/
theorem joinAlong_of_partOf (h : other.PartOf g) (order : List NodeId) :
    g.joinAlong other order = g := by
  have hnodes : other.nodes.foldl addNode g = g := by
    refine List.foldlRecOn (motive := (· = g)) _ _ rfl fun k hk id hid => ?_
    rw [hk]
    exact if_pos (h.nodes hid)
  unfold joinAlong
  split
  · rfl
  · rw [hnodes]
    refine List.foldlRecOn (motive := (· = g)) _ _ rfl fun k hk source _ => ?_
    rw [hk]
    exact offer_of_tags fun t tags htags => h.edges source t tags htags

theorem partOf_joinAlong (hnew : other.entrance ∉ g.nodes) (horder : other.Enumerates order) :
    other.PartOf (g.joinAlong other order) := by
  constructor
  · intro id hid
    have hnodes := congrArg BehaviorGraph.nodes (withoutEdges_joinAlong hnew order)
    exact hnodes ▸ mem_nodes_foldl_addNode hid
  · intro s t tags htags
    rw [tags?_joinAlong hnew horder, htags]
    exact subset_moreTags tags _

/-! ### The order of a graph's own edges -/

/-- The nodes at which edges start: nodes of the graph first, then others by their first edges. -/
def sources (g : BehaviorGraph) : List NodeId :=
  (g.nodes.filter fun id => g.successors id ≠ []) ++ g.outsideSources

theorem successors_ne_nil_iff : g.successors s ≠ [] ↔ s ∈ g.edges.keys.map Prod.fst := by
  rw [List.mem_map]
  constructor
  · intro hs
    obtain ⟨t, ht⟩ := List.exists_mem_of_ne_nil _ hs
    exact ⟨(s, t), Edges.mem_successors.mp ht, rfl⟩
  · rintro ⟨⟨_, t⟩, hkey, rfl⟩
    exact List.ne_nil_of_mem (Edges.mem_successors.mpr hkey)

theorem outsideSources_spec (g : BehaviorGraph) :
    g.outsideSources.Nodup ∧ ∀ id ∈ g.outsideSources, id ∉ g.nodes ∧ g.successors id ≠ [] := by
  unfold outsideSources
  refine List.foldlRecOn (motive := fun (ids : List NodeId) =>
    ids.Nodup ∧ ∀ id ∈ ids, id ∉ g.nodes ∧ g.successors id ≠ []) _ _ (by simp) ?_
  intro ids hids id hid
  split
  · exact hids
  · next hnew =>
    rw [not_or] at hnew
    refine ⟨nodup_concat hids.1 hnew.2, fun other hother => ?_⟩
    rcases List.mem_append.mp hother with hother | hother
    · exact hids.2 other hother
    · cases List.mem_singleton.mp hother
      exact ⟨hnew.1, successors_ne_nil_iff.mpr hid⟩

theorem WellFormed.enumerates_sources (hg : g.WellFormed) : g.Enumerates g.sources := by
  obtain ⟨hnodup, houtside⟩ := g.outsideSources_spec
  constructor
  · refine List.nodup_append.mpr ⟨hg.nodes.filter _, hnodup, ?_⟩
    rintro id hid other hother rfl
    exact (houtside id hother).1 (List.mem_filter.mp hid).1
  · intro id
    unfold sources
    rw [List.mem_append, List.mem_filter]
    constructor
    · rintro (⟨-, hid⟩ | hid)
      · simpa using hid
      · exact (houtside id hid).2
    · intro hid
      have hsource := g.mem_outsideSources (successors_ne_nil_iff.mp hid)
      rcases List.mem_append.mp hsource with hnode | hout
      · exact .inl ⟨hnode, by simpa using hid⟩
      · exact .inr hout

/-- The edges that start at a node, by its successors. -/
theorem WellFormed.entries_from (hg : g.WellFormed) (source : NodeId) :
    (g.edges.entries.filter fun e => e.1.1 = source) =
      (g.successors source).map fun target =>
        ((source, target), (g.tags? source target).getD []) := by
  have hkeys : g.successors source = g.edges.entries.filterMap fun e =>
      if e.1.1 = source then some e.1.2 else none := by
    unfold successors Edges.successors Table.keys
    rw [List.filterMap_map]
    rfl
  rw [hkeys, List.map_filterMap, ← List.filterMap_eq_filter]
  apply List.filterMap_congr
  rintro ⟨⟨s, t⟩, tags⟩ he
  have htags : g.tags? s t = some tags := (Table.get?_eq_some_iff hg.edges).mpr he
  by_cases hs : s = source
  · subst hs
    simp [Option.guard, htags]
  · simp [Option.guard, hs]

theorem WellFormed.foldl_edgesBySource (hother : other.WellFormed) (g : BehaviorGraph) :
    other.edgesBySource.foldl (fun g e => g.addEdge e.1.1 e.1.2 e.2) g =
      (other.nodes ++ other.outsideSources).foldl other.offer g := by
  unfold edgesBySource
  rw [List.foldl_flatMap]
  congr 1
  funext g source
  rw [hother.entries_from, List.foldl_map]
  rfl

/-- Nodes that were gone through already make no difference. -/
theorem foldl_offer_again {first again : List NodeId} (hsub : again ⊆ first) (g : BehaviorGraph) :
    again.foldl other.offer (first.foldl other.offer g) = first.foldl other.offer g := by
  refine List.foldlRecOn (motive := (· = first.foldl other.offer g)) _ _ rfl
    fun k hk source hsource => ?_
  rw [hk]
  refine offer_of_tags fun t tags htags => ?_
  rw [tags?_foldl_offer, if_pos (hsub hsource), htags]
  exact subset_moreTags tags _

/-- Joining goes through the nodes at which edges start in one of the possible orders. -/
theorem join_eq_joinAlong (hother : other.WellFormed) (g : BehaviorGraph) :
    g.join other = g.joinAlong other other.sources := by
  unfold join joinAlong
  split
  · rfl
  · have hagain : (other.nodes.filter fun id => other.successors id ≠ []) ⊆ other.nodes :=
      List.filter_subset_self _
    refine (hother.foldl_edgesBySource _).trans ?_
    unfold sources
    rw [List.foldl_append, List.foldl_append, List.foldl_append, foldl_offer_again hagain]

/-! ### Joined graphs -/

/-- **Joining is a union, in whatever order the edges of the second graph are gone through, and
joining it again changes nothing.** -/
theorem join_unites (hg : g.WellFormed) (hother : other.WellFormed)
    (hnew : other.entrance ∉ g.nodes) :
    g.IsUnion other (g.join other) ∧
    (g.join other).join other = g.join other ∧
    (∃ order, other.Enumerates order ∧ g.join other = g.joinAlong other order) ∧
    ∀ order order', other.Enumerates order → other.Enumerates order' →
      (g.joinAlong other order).Alike (g.joinAlong other order') ∧
      (g.joinAlong other order).joinAlong other order' = g.joinAlong other order := by
  have hsources := hother.enumerates_sources
  have hunion (order : List NodeId) (horder : other.Enumerates order) :
      g.IsUnion other (g.joinAlong other order) := isUnion_joinAlong hg hother hnew horder
  have hagain (order order' : List NodeId) (horder : other.Enumerates order) :
      (g.joinAlong other order).joinAlong other order' = g.joinAlong other order :=
    joinAlong_of_partOf (partOf_joinAlong hnew horder) order'
  refine ⟨?_, ?_, ⟨other.sources, hsources, join_eq_joinAlong hother g⟩, ?_⟩
  · rw [join_eq_joinAlong hother]
    exact hunion _ hsources
  · rw [join_eq_joinAlong hother, join_eq_joinAlong hother]
    exact hagain _ _ hsources
  · intro order order' horder horder'
    exact ⟨(hunion order horder).alike (hunion order' horder'), hagain order order' horder⟩

/-- A graph with an edge that starts at no node of its own. -/
def callerGraph : BehaviorGraph :=
  let g := (({ entrance := 1 } : BehaviorGraph).addNode 1).addNode 2
  (g.addEdge 1 2 ["CFG"]).addEdge 5 4 ["CFG"]

/-- A graph with edges from three nodes that are not its own, of which two lead to the same. -/
def calleeGraph : BehaviorGraph :=
  let g := (({ entrance := 10 } : BehaviorGraph).addNode 10).addNode 2
  (((g.addEdge 10 2 ["CFG"]).addEdge 1 2 ["DDG: x", "CFG"]).addEdge 6 4 ["CFG"]).addEdge 7 4 ["DDG"]

theorem join_unites_callee :
    callerGraph.IsUnion calleeGraph (callerGraph.join calleeGraph) ∧
    (callerGraph.join calleeGraph).tags? 1 2 = some ["CFG", "DDG: x"] ∧
    (callerGraph.join calleeGraph).join calleeGraph = callerGraph.join calleeGraph ∧
    (callerGraph.joinAlong calleeGraph [10, 1, 6, 7]).Alike
      (callerGraph.joinAlong calleeGraph [7, 6, 1, 10]) ∧
    (callerGraph.joinAlong calleeGraph [10, 1, 6, 7]).predecessors 4 = [5, 6, 7] ∧
    (callerGraph.joinAlong calleeGraph [7, 6, 1, 10]).predecessors 4 = [5, 7, 6] := by
  have hcaller : callerGraph.WellFormed :=
    Made.wellFormed (.addEdge 5 4 _ (.addEdge 1 2 _ (.addNode 2 (.addNode 1 (.new 1)))))
  have hcallee : calleeGraph.WellFormed :=
    Made.wellFormed (.addEdge 7 4 _ (.addEdge 6 4 _ (.addEdge 1 2 _ (.addEdge 10 2 _
      (.addNode 2 (.addNode 10 (.new 10)))))))
  have hkeys : calleeGraph.edges.keys.map Prod.fst = [10, 1, 6, 7] := by decide
  have hforth : calleeGraph.Enumerates [10, 1, 6, 7] :=
    ⟨by decide, fun id => by rw [successors_ne_nil_iff, hkeys]⟩
  have hback : calleeGraph.Enumerates [7, 6, 1, 10] :=
    ⟨by decide, fun id => by
      rw [successors_ne_nil_iff, hkeys]
      exact List.Perm.mem_iff (by decide)⟩
  obtain ⟨hunion, hagain, -, halike⟩ := join_unites hcaller hcallee (by decide)
  exact ⟨hunion, by decide, hagain, (halike _ _ hforth hback).1, by decide, by decide⟩

end BehaviorGraph

end PackageVet

import PackageVet.Build.Link
import PackageVet.Proofs.Reduced.Split
import PackageVet.Proofs.Walk

/-! Growing behaviour graphs.

A graph that is being built only grows: no node and no edge is taken away, and an edge keeps its
tags (`PartOf`). Where no unit is put in, only edges are added (`MoreEdges`), and nearly always into
the node that the walk has come to (`MoreInto`). Joining keeps both graphs whole, unless the
entrance of the second is in the first already (`partOf_join_right`, `tags?_join`). -/
namespace PackageVet

/-! ### Tags -/

theorem mem_mergeTags {known tags : List String} {tag : String} :
    tag ∈ mergeTags known tags ↔ tag ∈ known ∨ tag ∈ tags := by
  induction tags generalizing known with
  | nil => simp [mergeTags]
  | cons x rest ih =>
    show tag ∈ mergeTags (if x ∈ known then known else known ++ [x]) rest ↔ _
    rw [ih]
    by_cases hx : x ∈ known
    · rw [if_pos hx, List.mem_cons]
      constructor
      · exact fun h => h.imp_right .inr
      · rintro (h | rfl | h)
        · exact .inl h
        · exact .inl hx
        · exact .inr h
    · rw [if_neg hx, List.mem_append, List.mem_singleton, List.mem_cons, or_assoc]

theorem mergeTags_of_subset {known tags : List String} (h : tags ⊆ known) :
    mergeTags known tags = known := by
  induction tags with
  | nil => rfl
  | cons tag rest ih =>
    have htag : tag ∈ known := h (List.mem_cons_self ..)
    show mergeTags (if tag ∈ known then known else known ++ [tag]) rest = known
    rw [if_pos htag]
    exact ih fun x hx => h (List.mem_cons_of_mem tag hx)

namespace EdgeKind

theorem ofTags_eq_data {tags : List String} :
    ofTags tags = .data ↔ ∃ tag ∈ tags, Text.contains tag "DDG" = true := by
  simp [ofTags]

@[simp] theorem ofTags_nil : ofTags [] = .control := rfl

theorem ofTags_mergeTags (known tags : List String) :
    ofTags (mergeTags known tags) = (ofTags known).join (ofTags tags) := by
  have hdata : ofTags (mergeTags known tags) = .data ↔
      ofTags known = .data ∨ ofTags tags = .data := by
    simp only [ofTags_eq_data, mem_mergeTags, or_and_right, exists_or]
  cases hk : ofTags known <;> cases ht : ofTags tags <;>
    cases hm : ofTags (mergeTags known tags) <;> simp_all [join]

theorem Admits.of_subset {way : EdgeKind} {tags more : List String}
    (h : way.Admits (ofTags tags)) (hsub : tags ⊆ more) : way.Admits (ofTags more) := by
  rcases h with rfl | hdata
  · exact .inl rfl
  · obtain ⟨tag, htag, hc⟩ := ofTags_eq_data.mp hdata
    exact .inr (ofTags_eq_data.mpr ⟨tag, hsub htag, hc⟩)

end EdgeKind

theorem Table.mem_of_get? {κ ν : Type} [DecidableEq κ] {t : Table κ ν} {key : κ} {value : ν}
    (h : t.get? key = some value) : (key, value) ∈ t.entries := by
  obtain ⟨entries⟩ := t
  simp only [get?] at h ⊢
  induction entries with
  | nil => cases h
  | cons e rest ih =>
    obtain ⟨k, v⟩ := e
    by_cases hk : k = key
    · simp_all [find?]
    · simp only [find?, hk, if_false] at h
      exact List.mem_cons_of_mem _ (ih h)

namespace BehaviorGraph
variable {g h k other : BehaviorGraph} {kind : EdgeKind} {a b s t : NodeId} {tags : List String}
  {source : ProgramNode}

/-! ### One more edge -/

theorem tags?_addEdge (g : BehaviorGraph) (s t : NodeId) (tags : List String) (a b : NodeId) :
    (g.addEdge s t tags).tags? a b =
      if a = s ∧ b = t then some (mergeTags ((g.tags? s t).getD []) tags) else g.tags? a b := by
  have hget := Table.get?_insert g.edges (s, t) (a, b) (mergeTags ((g.tags? s t).getD []) tags)
  simp only [Prod.mk.injEq] at hget
  exact hget

theorem leads_iff : g.Leads kind a b ↔
    ∃ tags, g.tags? a b = some tags ∧ kind.Admits (EdgeKind.ofTags tags) := by
  simp only [Leads, edgeKind?, Option.map_eq_some_iff]
  constructor
  · rintro ⟨_, ⟨tags, htags, rfl⟩, hk⟩
    exact ⟨tags, htags, hk⟩
  · rintro ⟨tags, htags, hk⟩
    exact ⟨_, ⟨tags, htags, rfl⟩, hk⟩

theorem hasEdge_iff_leads : g.hasEdge a b = true ↔ g.Leads .control a b := by
  rw [leads_iff, hasEdge, Option.isSome_iff_exists]
  simp [EdgeKind.control_admits]

theorem leads_addEdge : (g.addEdge s t tags).Leads kind a b ↔
    g.Leads kind a b ∨ (a = s ∧ b = t ∧ kind.Admits (EdgeKind.ofTags tags)) := by
  rw [leads_iff, leads_iff, tags?_addEdge]
  by_cases hst : a = s ∧ b = t
  · obtain ⟨rfl, rfl⟩ := hst
    cases hg : g.tags? a b with
    | some known => simp [EdgeKind.ofTags_mergeTags, EdgeKind.admits_join]
    | none =>
      -- no tags are no stronger than any other
      have hnil : kind.Admits (EdgeKind.ofTags []) → kind.Admits (EdgeKind.ofTags tags) :=
        fun hn => hn.of_subset (List.nil_subset tags)
      simpa [EdgeKind.ofTags_mergeTags, EdgeKind.admits_join] using hnil
  · have hnot : ¬ (a = s ∧ b = t ∧ kind.Admits (EdgeKind.ofTags tags)) :=
      fun h => hst ⟨h.1, h.2.1⟩
    simp [hst, hnot]

/-! ### Parts of a graph -/

/-- Whether a graph has the nodes of another, and its edges with at least their tags. -/
structure PartOf (g h : BehaviorGraph) : Prop where
  nodes : g.nodes ⊆ h.nodes
  edges : ∀ a b tags, g.tags? a b = some tags → ∃ more, h.tags? a b = some more ∧ tags ⊆ more

theorem PartOf.refl (g : BehaviorGraph) : g.PartOf g :=
  ⟨List.Subset.refl _, fun _ _ tags h => ⟨tags, h, List.Subset.refl _⟩⟩

theorem PartOf.trans (hgh : g.PartOf h) (hhk : h.PartOf k) : g.PartOf k := by
  refine ⟨List.Subset.trans hgh.nodes hhk.nodes, fun a b tags htags => ?_⟩
  obtain ⟨more, hmore, hsub⟩ := hgh.edges a b tags htags
  obtain ⟨most, hmost, hsub'⟩ := hhk.edges a b more hmore
  exact ⟨most, hmost, List.Subset.trans hsub hsub'⟩

theorem PartOf.leads (hgh : g.PartOf h) (hl : g.Leads kind a b) : h.Leads kind a b := by
  obtain ⟨tags, htags, hk⟩ := leads_iff.mp hl
  obtain ⟨more, hmore, hsub⟩ := hgh.edges a b tags htags
  exact leads_iff.mpr ⟨more, hmore, hk.of_subset hsub⟩

theorem PartOf.hasEdge (hgh : g.PartOf h) (he : g.hasEdge a b = true) : h.hasEdge a b = true :=
  hasEdge_iff_leads.mpr (hgh.leads (hasEdge_iff_leads.mp he))

theorem partOf_addEdge (g : BehaviorGraph) (s t : NodeId) (tags : List String) :
    g.PartOf (g.addEdge s t tags) := by
  refine ⟨List.Subset.refl _, fun a b known hknown => ?_⟩
  rw [tags?_addEdge]
  split
  · next hst =>
    obtain ⟨rfl, rfl⟩ := hst
    exact ⟨_, rfl, fun tag htag => mem_mergeTags.mpr (.inl (by simpa [hknown] using htag))⟩
  · exact ⟨known, hknown, List.Subset.refl _⟩

@[simp] theorem tags?_addNode (g : BehaviorGraph) (id a b : NodeId) :
    (g.addNode id).tags? a b = g.tags? a b := by
  unfold addNode
  split <;> rfl

theorem partOf_addNode (g : BehaviorGraph) (id : NodeId) : g.PartOf (g.addNode id) := by
  refine ⟨fun other h => mem_nodes_addNode.mpr (.inl h), fun a b tags h => ⟨tags, ?_, fun _ h => h⟩⟩
  rw [tags?_addNode]
  exact h

theorem partOf_addReturn (g : BehaviorGraph) (id : NodeId) : g.PartOf (g.addReturn id) := by
  unfold addReturn
  split
  · exact .refl g
  · exact ⟨List.Subset.refl _, fun _ _ tags h => ⟨tags, h, fun _ h => h⟩⟩

theorem partOf_foldl {α : Type} {step : BehaviorGraph → α → BehaviorGraph}
    (hstep : ∀ g x, PartOf g (step g x)) (xs : List α) (g : BehaviorGraph) :
    g.PartOf (xs.foldl step g) :=
  List.foldlRecOn (motive := g.PartOf) _ _ (.refl g) fun h hgh x _ => hgh.trans (hstep h x)

/-! ### Joining -/

theorem partOf_join_left (g other : BehaviorGraph) : g.PartOf (g.join other) := by
  unfold join
  split
  · exact .refl g
  · exact (partOf_foldl partOf_addNode other.nodes g).trans
      (partOf_foldl (fun g _ => partOf_addEdge g _ _ _) _ _)

theorem mem_outsideSources (g : BehaviorGraph) {id : NodeId} (h : id ∈ g.edges.keys.map Prod.fst) :
    id ∈ g.nodes ++ g.outsideSources := by
  rw [List.mem_append]
  unfold outsideSources
  -- a source that has been come by is a node or is on the list
  suffices hfold : ∀ (ids sources : List NodeId), id ∈ ids ∨ id ∈ sources →
      id ∈ g.nodes ∨ id ∈ ids.foldl (fun sources id =>
        if id ∈ g.nodes ∨ id ∈ sources then sources else sources ++ [id]) sources from
    hfold _ [] (.inl h)
  intro ids
  induction ids with
  | nil => exact fun sources h => .inr (h.resolve_left List.not_mem_nil)
  | cons x rest ih =>
    intro sources hx
    by_cases hid : id ∈ g.nodes
    · exact .inl hid
    rw [List.foldl_cons]
    apply ih
    rcases hx with hx | hx
    · rcases List.mem_cons.mp hx with rfl | hx
      · by_cases hs : id ∈ sources <;> simp [hid, hs]
      · exact .inl hx
    · right
      split
      · exact hx
      · exact List.mem_append_left _ hx

theorem mem_edgesBySource {g : BehaviorGraph} (h : g.tags? a b = some tags) :
    ((a, b), tags) ∈ g.edgesBySource := by
  have hentry : ((a, b), tags) ∈ g.edges.entries := Table.mem_of_get? h
  have hsource : a ∈ g.edges.keys.map Prod.fst :=
    List.mem_map.mpr ⟨(a, b), List.mem_map.mpr ⟨_, hentry, rfl⟩, rfl⟩
  exact List.mem_flatMap.mpr
    ⟨a, g.mem_outsideSources hsource, List.mem_filter.mpr ⟨hentry, by simp⟩⟩

theorem mem_nodes_foldl_addNode {ids : List NodeId} {g : BehaviorGraph} (h : s ∈ ids) :
    s ∈ (ids.foldl addNode g).nodes := by
  induction ids generalizing g with
  | nil => cases h
  | cons x rest ih =>
    rcases List.mem_cons.mp h with rfl | h
    · exact (partOf_foldl partOf_addNode rest (g.addNode s)).nodes
        (mem_nodes_addNode.mpr (.inr rfl))
    · exact ih h

/-- A graph whose entrance is not in another yet is part of the two joined. -/
theorem partOf_join_right {g other : BehaviorGraph} (h : other.entrance ∉ g.nodes) :
    other.PartOf (g.join other) := by
  have hstep (g : BehaviorGraph) (e : (NodeId × NodeId) × List String) :
      g.PartOf (g.addEdge e.1.1 e.1.2 e.2) := partOf_addEdge g _ _ _
  unfold join contains
  rw [if_neg (by simpa using h)]
  constructor
  · intro id hid
    exact (partOf_foldl hstep _ _).nodes (mem_nodes_foldl_addNode hid)
  · intro a b tags htags
    -- the fold comes by the edge, and what comes after takes nothing away
    obtain ⟨before, after, hsplit⟩ := List.append_of_mem (mem_edgesBySource htags)
    rw [hsplit, List.foldl_append, List.foldl_cons]
    obtain ⟨more, hmore, hsub⟩ := (partOf_foldl hstep after _).edges a b _
      ((tags?_addEdge _ a b tags a b).trans (if_pos ⟨rfl, rfl⟩))
    exact ⟨more, hmore, fun tag htag => hsub (mem_mergeTags.mpr (.inr htag))⟩

/-- What a list of edges adds to an edge that is on it with one list of tags. -/
theorem tags?_foldl_addEdge {edges : List ((NodeId × NodeId) × List String)}
    (honly : ∀ e ∈ edges, e.1 = (a, b) → e.2 = tags) :
    (edges.foldl (fun g e => g.addEdge e.1.1 e.1.2 e.2) g).tags? a b =
      if (a, b) ∈ edges.map Prod.fst then some (mergeTags ((g.tags? a b).getD []) tags)
      else g.tags? a b := by
  induction edges generalizing g with
  | nil => rfl
  | cons e rest ih =>
    rw [List.foldl_cons, ih fun x hx => honly x (List.mem_cons_of_mem e hx), tags?_addEdge]
    by_cases he : e.1 = (a, b)
    · obtain ⟨⟨x, y⟩, more⟩ := e
      obtain ⟨rfl, rfl⟩ := Prod.mk.inj he
      obtain rfl : more = tags := honly _ (List.mem_cons_self ..) rfl
      -- the tags that are there already are not added again
      have hagain : mergeTags (mergeTags ((g.tags? x y).getD []) more) more =
          mergeTags ((g.tags? x y).getD []) more :=
        mergeTags_of_subset fun tag htag => mem_mergeTags.mpr (.inr htag)
      simp [hagain]
    · have hne : ¬ (a = e.1.1 ∧ b = e.1.2) := fun h => he (Prod.ext h.1.symm h.2.symm)
      simp only [if_neg hne, List.map_cons, List.mem_cons, Ne.symm he, false_or]

/-- Joining adds the tags of the second graph to those of the first. -/
theorem tags?_join (hother : other.edges.keys.Nodup) (hg : other.entrance ∉ g.nodes) :
    (g.join other).tags? a b =
      match other.tags? a b with
      | some tags => some (mergeTags ((g.tags? a b).getD []) tags)
      | none => g.tags? a b := by
  have hnodes : ∀ (ids : List NodeId) (g : BehaviorGraph),
      (ids.foldl addNode g).tags? a b = g.tags? a b := by
    intro ids
    induction ids with
    | nil => exact fun _ => rfl
    | cons id rest ih => exact fun g => (ih _).trans (tags?_addNode g id a b)
  have hentries : ∀ e ∈ other.edgesBySource, e ∈ other.edges.entries := by
    intro e he
    obtain ⟨source, -, he⟩ := List.mem_flatMap.mp he
    exact (List.mem_filter.mp he).1
  unfold join contains
  rw [if_neg (by simpa using hg)]
  cases htags : other.tags? a b with
  | some tags =>
    have hmem : (a, b) ∈ other.edgesBySource.map Prod.fst :=
      List.mem_map.mpr ⟨_, mem_edgesBySource htags, rfl⟩
    have honly : ∀ e ∈ other.edgesBySource, e.1 = (a, b) → e.2 = tags := by
      rintro ⟨key, more⟩ he rfl
      have hget : other.tags? a b = some more := (Table.get?_eq_some_iff hother).mpr (hentries _ he)
      exact Option.some.inj (hget.symm.trans htags)
    exact (tags?_foldl_addEdge honly).trans (by rw [if_pos hmem, hnodes])
  | none =>
    have hmem : (a, b) ∉ other.edgesBySource.map Prod.fst := by
      intro hmem
      obtain ⟨⟨key, more⟩, he, rfl⟩ := List.mem_map.mp hmem
      have hget : other.tags? a b = some more := (Table.get?_eq_some_iff hother).mpr (hentries _ he)
      rw [htags] at hget
      cases hget
    have honly : ∀ e ∈ other.edgesBySource, e.1 = (a, b) → e.2 = [] :=
      fun e he hkey => absurd (List.mem_map.mpr ⟨e, he, hkey⟩) hmem
    exact (tags?_foldl_addEdge honly).trans (by rw [if_neg hmem, hnodes])

/-! ### More edges between the same nodes -/

/-- A graph without its edges. -/
def withoutEdges (g : BehaviorGraph) : BehaviorGraph := { g with edges := {} }

/-- Whether a graph comes from another by adding edges alone. -/
structure MoreEdges (g h : BehaviorGraph) : Prop where
  rest : h.withoutEdges = g.withoutEdges
  part : g.PartOf h

theorem MoreEdges.refl (g : BehaviorGraph) : g.MoreEdges g := ⟨rfl, .refl g⟩

theorem MoreEdges.trans (hgh : g.MoreEdges h) (hhk : h.MoreEdges k) : g.MoreEdges k :=
  ⟨hhk.rest.trans hgh.rest, hgh.part.trans hhk.part⟩

/-- What becomes of the nodes when two graphs are joined. -/
theorem withoutEdges_join (g other : BehaviorGraph) :
    (g.join other).withoutEdges =
      if other.entrance ∈ g.nodes then g.withoutEdges
      else other.nodes.foldl addNode g.withoutEdges := by
  have hnodes : ∀ (ids : List NodeId) (g : BehaviorGraph),
      (ids.foldl addNode g).withoutEdges = ids.foldl addNode g.withoutEdges := by
    intro ids
    induction ids with
    | nil => exact fun _ => rfl
    | cons id rest ih =>
      intro g
      have hnode : (g.addNode id).withoutEdges = g.withoutEdges.addNode id := by
        by_cases hid : id ∈ g.nodes <;> simp [addNode, withoutEdges, hid]
      rw [List.foldl_cons, List.foldl_cons, ih, hnode]
  have hedges : ∀ (edges : List ((NodeId × NodeId) × List String)) (g : BehaviorGraph),
      (edges.foldl (fun g e => g.addEdge e.1.1 e.1.2 e.2) g).withoutEdges = g.withoutEdges := by
    intro edges
    induction edges with
    | nil => exact fun _ => rfl
    | cons e rest ih => exact fun g => ih _
  unfold join contains
  by_cases hentrance : other.entrance ∈ g.nodes
  · simp [hentrance]
  · rw [if_neg (by simpa using hentrance), if_neg hentrance]
    exact (hedges _ _).trans (hnodes _ _)

theorem nodup_join {g : BehaviorGraph} (other : BehaviorGraph) (h : g.edges.keys.Nodup) :
    (g.join other).edges.keys.Nodup := by
  have hnode : ∀ (g : BehaviorGraph) (id : NodeId), (g.addNode id).edges = g.edges := by
    intro g id
    unfold addNode
    split <;> rfl
  unfold join
  split
  · exact h
  · refine List.foldlRecOn (motive := fun (g : BehaviorGraph) => g.edges.keys.Nodup) _ _ ?_
      fun g hg e _ => Table.nodup_insert g.edges _ _ hg
    refine List.foldlRecOn (motive := fun (g : BehaviorGraph) => g.edges.keys.Nodup) _ _ h
      fun g hg id _ => ?_
    rwa [hnode]

/-! ### More edges into one node -/

/-- Whether a graph comes from another by adding edges into one node alone. -/
structure MoreInto (t : NodeId) (g h : BehaviorGraph) : Prop extends MoreEdges g h where
  elsewhere : ∀ a b, b ≠ t → h.tags? a b = g.tags? a b
  once : g.edges.keys.Nodup → h.edges.keys.Nodup

theorem MoreInto.refl (t : NodeId) (g : BehaviorGraph) : MoreInto t g g :=
  ⟨.refl g, fun _ _ _ => rfl, fun h => h⟩

theorem MoreInto.trans (hgh : MoreInto t g h) (hhk : MoreInto t h k) : MoreInto t g k where
  toMoreEdges := hgh.toMoreEdges.trans hhk.toMoreEdges
  elsewhere a b hb := (hhk.elsewhere a b hb).trans (hgh.elsewhere a b hb)
  once hnodup := hhk.once (hgh.once hnodup)

theorem moreInto_foldl {α : Type} {step : BehaviorGraph → α → BehaviorGraph}
    (hstep : ∀ g x, MoreInto t g (step g x)) (xs : List α) (g : BehaviorGraph) :
    MoreInto t g (xs.foldl step g) :=
  List.foldlRecOn (motive := MoreInto t g) _ _ (.refl t g) fun h hgh x _ => hgh.trans (hstep h x)

theorem moreInto_addEdge (g : BehaviorGraph) (s t : NodeId) (tags : List String) :
    MoreInto t g (g.addEdge s t tags) where
  rest := rfl
  part := partOf_addEdge g s t tags
  elsewhere a b hb := by
    rw [tags?_addEdge, if_neg fun h => hb h.2]
  once := Table.nodup_insert g.edges (s, t) _

theorem moreInto_ensureEdge (g : BehaviorGraph) (s t : NodeId) (tags : List String) :
    MoreInto t g (g.ensureEdge s t tags) := by
  unfold ensureEdge
  split
  · exact .refl t g
  · exact moreInto_addEdge g s t tags

theorem moreInto_linkFrom (g : BehaviorGraph) (former : Option NodeId) (t : NodeId)
    (tags : List String) : MoreInto t g (g.linkFrom former t tags) := by
  cases former with
  | none => exact .refl t g
  | some s => exact moreInto_addEdge g s t tags

theorem moreInto_linkIncoming (g : BehaviorGraph) (u : CodeUnit) (former : Option NodeId)
    (t : NodeId) : MoreInto t g (g.linkIncoming u former t) :=
  moreInto_linkFrom g former t _

theorem moreInto_linkName (g : BehaviorGraph) (u : CodeUnit) (source : Option NodeId) (t : NodeId)
    (name : String) : MoreInto t g (g.linkName u source t name) := by
  cases source with
  | none => exact .refl t g
  | some s => exact moreInto_addEdge g s t _

theorem moreInto_linkReturns (g : BehaviorGraph) (returns : List NodeId) (t : NodeId)
    (tags : List String) : MoreInto t g (g.linkReturns returns t tags) :=
  moreInto_foldl (fun g r => moreInto_addEdge g r t tags) returns g

theorem moreInto_substituteReturns (g : BehaviorGraph) (source : ProgramNode) (t : NodeId)
    (tags : List String) : MoreInto t g (g.substituteReturns source t tags) := by
  unfold substituteReturns
  split
  · exact moreInto_addEdge g source.id t tags
  · exact moreInto_linkReturns g _ t _

theorem moreInto_linkResolved (g : BehaviorGraph) (source : ProgramNode) (t : NodeId)
    (tags : List String) : MoreInto t g (g.linkResolved source t tags) := by
  unfold linkResolved
  split
  · exact moreInto_substituteReturns g source t tags
  · exact moreInto_addEdge g source.id t tags

/-! ### What a node passes on -/

theorem leads_addEdge_self (h : kind.Admits (EdgeKind.ofTags tags)) :
    (g.addEdge s t tags).Leads kind s t :=
  leads_addEdge.mpr (.inr ⟨rfl, rfl, h⟩)

theorem leads_linkReturns {returns : List NodeId} (hs : s ∈ returns)
    (h : kind.Admits (EdgeKind.ofTags tags)) : (g.linkReturns returns t tags).Leads kind s t := by
  obtain ⟨before, after, rfl⟩ := List.append_of_mem hs
  unfold linkReturns
  rw [List.foldl_append, List.foldl_cons]
  exact (moreInto_linkReturns _ after t tags).part.leads (leads_addEdge_self h)

theorem leads_of_linkReturns {returns : List NodeId} (hs : s ∉ returns)
    (h : (g.linkReturns returns t tags).Leads kind s b) : g.Leads kind s b := by
  induction returns generalizing g with
  | nil => exact h
  | cons r rest ih =>
    rw [List.mem_cons, not_or] at hs
    have hfirst : (g.addEdge r t tags).Leads kind s b := ih hs.2 h
    exact (leads_addEdge.mp hfirst).resolve_right fun h => hs.1 h.1

theorem hasEdge_ensureEdge (g : BehaviorGraph) (s t : NodeId) (tags : List String) :
    (g.ensureEdge s t tags).Leads .control s t := by
  unfold ensureEdge
  split
  · next h => exact hasEdge_iff_leads.mp h
  · exact leads_addEdge_self (EdgeKind.control_admits _)

/-- Whether a node passes on to another over edges of a kind: the node itself or, where a unit was
put in at it, all that the unit returns. -/
def Carries (g : BehaviorGraph) (kind : EdgeKind) (source : ProgramNode) (t : NodeId) : Prop :=
  g.Leads kind source.id t ∨
    ∃ link, source.callee = some link ∧ link.returns ≠ [] ∧ ∀ r ∈ link.returns, g.Leads kind r t

theorem PartOf.carries (hgh : g.PartOf h) (hc : g.Carries kind source t) :
    h.Carries kind source t :=
  hc.imp hgh.leads fun ⟨link, hlink, hne, hall⟩ =>
    ⟨link, hlink, hne, fun r hr => hgh.leads (hall r hr)⟩

theorem carries_addEdge (h : kind.Admits (EdgeKind.ofTags tags)) :
    (g.addEdge source.id t tags).Carries kind source t :=
  .inl (leads_addEdge_self h)

theorem carries_substituteReturns (h : kind.Admits (EdgeKind.ofTags tags)) :
    (g.substituteReturns source t tags).Carries kind source t := by
  -- the tags of edges from returned values are those of data, whatever the edge's own are
  have hdata : kind.Admits
      (EdgeKind.ofTags (if EdgeKind.ofTags tags = .data then tags else ["DDG"])) := by
    split
    · exact h
    · exact .inr (by decide +kernel)
  unfold substituteReturns returnsOf
  cases hcallee : source.callee with
  | none => exact carries_addEdge h
  | some link =>
    cases hreturns : link.returns with
    | nil => simpa [hreturns] using carries_addEdge h
    | cons r rest =>
      refine .inr ⟨link, hcallee, by simp [hreturns], fun s hs => ?_⟩
      simpa [hreturns] using leads_linkReturns (hreturns ▸ hs) hdata

theorem carries_linkResolved (h : kind.Admits (EdgeKind.ofTags tags)) :
    (g.linkResolved source t tags).Carries kind source t := by
  unfold linkResolved
  split
  · exact carries_substituteReturns h
  · exact carries_addEdge h

end BehaviorGraph

end PackageVet

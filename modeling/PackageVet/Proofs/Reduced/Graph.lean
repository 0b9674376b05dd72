import PackageVet.Matching
import PackageVet.Proofs.Walk

/-! Reduced graphs through their two look-ups.

What `addNode` and `addEdge` do is said once, on `category?` and `edge?`. A graph made by them
(`Built`) holds each node once, so its nodes of a category are those that look up to it. -/
namespace PackageVet

/-! ### Merged ids -/

theorem mem_mergeIds {known ids : List NodeId} {id : NodeId} :
    id ∈ mergeIds known ids ↔ id ∈ known ∨ id ∈ ids := by
  induction ids generalizing known with
  | nil => simp [mergeIds]
  | cons x rest ih =>
    show id ∈ mergeIds (if x ∈ known then known else known ++ [x]) rest ↔ _
    rw [ih]
    by_cases hx : x ∈ known
    · rw [if_pos hx, List.mem_cons]
      constructor
      · exact fun h => h.imp_right .inr
      · rintro (h | rfl | h)
        · exact .inl h
        · exact .inl hx
        · exact .inr h
    · rw [if_neg hx, List.mem_append, List.mem_singleton, List.mem_cons, or_assoc]

namespace ReducedGraph
variable {r : ReducedGraph} {kind : EdgeKind} {s t id : NodeId}

/-! ### Looking up -/

theorem category?_addNode (r : ReducedGraph) (id other : NodeId) (c : Category) :
    (r.addNode id c).category? other = if other = id then some c else r.category? other :=
  Table.get?_insert r.nodes id other c

@[simp] theorem edge?_addNode (r : ReducedGraph) (id : NodeId) (c : Category) (s t : NodeId) :
    (r.addNode id c).edge? s t = r.edge? s t := rfl

@[simp] theorem category?_addEdge (r : ReducedGraph) (s t : NodeId) (kind : EdgeKind)
    (elided : List NodeId) (id : NodeId) :
    (r.addEdge s t kind elided).category? id = r.category? id := rfl

theorem edge?_addEdge_of_none (h : r.edge? s t = none) (kind : EdgeKind) (elided : List NodeId) :
    (r.addEdge s t kind elided).edge? s t = some ⟨kind, elided⟩ := by
  simp only [addEdge, h]
  exact Table.get?_insert_self ..

theorem edge?_addEdge_of_some {known : ReducedEdge} (h : r.edge? s t = some known)
    (kind : EdgeKind) (elided : List NodeId) :
    (r.addEdge s t kind elided).edge? s t =
      some ⟨known.kind.join kind, mergeIds known.elided elided⟩ := by
  simp only [addEdge, h]
  exact Table.get?_insert_self ..

theorem edge?_addEdge_of_ne {s' t' : NodeId} (h : ¬ (s' = s ∧ t' = t)) (kind : EdgeKind)
    (elided : List NodeId) : (r.addEdge s t kind elided).edge? s' t' = r.edge? s' t' :=
  Table.get?_insert_of_ne _ _ (by simpa using h)

theorem isSome_edge?_addEdge_self (r : ReducedGraph) (s t : NodeId) (kind : EdgeKind)
    (elided : List NodeId) : ((r.addEdge s t kind elided).edge? s t).isSome := by
  cases h : r.edge? s t with
  | none => rw [edge?_addEdge_of_none h]; rfl
  | some known => rw [edge?_addEdge_of_some h]; rfl

/-- Whether a graph has at least the nodes and the links of another. -/
structure Within (r r' : ReducedGraph) : Prop where
  node : ∀ id, (r.category? id).isSome → (r'.category? id).isSome
  edge : ∀ s t, (r.edge? s t).isSome → (r'.edge? s t).isSome

theorem Within.refl (r : ReducedGraph) : r.Within r := ⟨fun _ h => h, fun _ _ h => h⟩

theorem Within.trans {a b c : ReducedGraph} (h : a.Within b) (h' : b.Within c) : a.Within c :=
  ⟨fun id hi => h'.node id (h.node id hi), fun s t he => h'.edge s t (h.edge s t he)⟩

theorem within_addNode (r : ReducedGraph) (id : NodeId) (c : Category) :
    r.Within (r.addNode id c) := by
  refine ⟨fun other h => ?_, fun _ _ h => h⟩
  rw [category?_addNode]
  split
  · rfl
  · exact h

theorem within_addEdge (r : ReducedGraph) (s t : NodeId) (kind : EdgeKind) (elided : List NodeId) :
    r.Within (r.addEdge s t kind elided) := by
  refine ⟨fun _ h => h, fun s' t' h => ?_⟩
  by_cases he : s' = s ∧ t' = t
  · obtain ⟨rfl, rfl⟩ := he
    exact isSome_edge?_addEdge_self ..
  · rw [edge?_addEdge_of_ne he]
    exact h

/-! ### Nodes of a category -/

/-- The graphs that are made by adding nodes and edges. -/
inductive Built : ReducedGraph → Prop where
  | empty : Built {}
  | addNode {r : ReducedGraph} (id : NodeId) (c : Category) : Built r → Built (r.addNode id c)
  | addEdge {r : ReducedGraph} (s t : NodeId) (kind : EdgeKind) (elided : List NodeId) :
      Built r → Built (r.addEdge s t kind elided)

theorem Built.nodup_keys (h : Built r) : r.nodes.keys.Nodup := by
  induction h with
  | empty => exact List.nodup_nil
  | addNode id c _ ih => exact Table.nodup_insert _ id c ih
  | addEdge _ _ _ _ _ ih => exact ih

theorem Built.mem_nodesWith (h : Built r) {c : Category} :
    id ∈ r.nodesWith c ↔ r.category? id = some c := by
  have hget : r.category? id = some c ↔ (id, c) ∈ r.nodes.entries :=
    Table.get?_eq_some_iff h.nodup_keys
  rw [hget]
  simp [nodesWith]

theorem Built.nodup_nodesWith (h : Built r) (c : Category) : (r.nodesWith c).Nodup :=
  h.nodup_keys.sublist (List.filter_sublist.map Prod.fst)

/-! ### Edges as steps of a way -/

/-- Whether a way of a kind may go from a node straight to another. -/
def Leads (r : ReducedGraph) (kind : EdgeKind) (s t : NodeId) : Prop :=
  ∃ edge, r.edge? s t = some edge ∧ kind.Admits edge.kind

theorem Leads.of_admits {way : EdgeKind} (hk : way.Admits kind) (h : r.Leads kind s t) :
    r.Leads way s t := by
  obtain ⟨edge, he, ha⟩ := h
  exact ⟨edge, he, hk.trans ha⟩

/-- One more way between two nodes is a step for the ways that its kind allows. -/
theorem leads_addEdge {a b : NodeId} {edge : EdgeKind} {elided : List NodeId} :
    (r.addEdge a b edge elided).Leads kind s t ↔
      r.Leads kind s t ∨ (s = a ∧ t = b ∧ kind.Admits edge) := by
  by_cases hst : s = a ∧ t = b
  · obtain ⟨rfl, rfl⟩ := hst
    cases he : r.edge? s t with
    | none => simp [Leads, he, edge?_addEdge_of_none he]
    | some known => simp [Leads, he, edge?_addEdge_of_some he, EdgeKind.admits_join]
  · have hnot : ¬ (s = a ∧ t = b ∧ kind.Admits edge) := fun h => hst ⟨h.1, h.2.1⟩
    simp [Leads, edge?_addEdge_of_ne hst, hnot]

theorem mem_successors : t ∈ r.successors s ↔ ∃ edge, r.edge? s t = some edge := by
  rw [← Option.isSome_iff_exists]
  exact Edges.mem_successors.trans (Table.contains_iff r.edges (s, t)).symm

/-- The steps of a way are the edges that a search follows. -/
theorem leads_iff : r.Leads kind s t ↔ t ∈ r.successors s ∧ r.follows kind s t = true := by
  rw [mem_successors]
  constructor
  · rintro ⟨edge, he, hk⟩
    refine ⟨⟨edge, he⟩, ?_⟩
    simpa [follows, he, EdgeKind.Admits] using hk
  · rintro ⟨⟨edge, he⟩, hf⟩
    refine ⟨edge, he, ?_⟩
    simpa [follows, he, EdgeKind.Admits] using hf

end ReducedGraph

end PackageVet

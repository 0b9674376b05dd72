import Mathlib.Data.List.Induction
import PackageVet.Proofs.Matching.Matches

/-! Subsumption of patterns is implication of matches.

Where a pattern is subsumed by another, a match of the other contains one of the pattern
(`Fits.of_isSubsumedBy`). For the converse a pattern is drawn as a reduced graph, with a node for
each category and an edge for each triple (`toGraph`): the pattern matches there, and what else
matches there asks for no more than the pattern has (`isSubsumedBy_of_fits_toGraph`). -/
namespace PackageVet

/-- The nodes that a match has for some categories. -/
def Mapping.restrict (m : Mapping) (categories : List Category) : List (Category × NodeId) :=
  categories.filterMap fun c => (m.node? c).map fun id => (c, id)

namespace Pattern
variable {p q : Pattern} {r : ReducedGraph} {node : Category → NodeId} {kind : EdgeKind}

/-! ### From a match to a match -/

theorem Fits.of_isSubsumedBy (h : p.isSubsumedBy q = true) (hfits : q.Fits r node) :
    p.Fits r node := by
  obtain ⟨hsub, hways⟩ := isSubsumedBy_iff.mp h
  have hadmits (way kind : EdgeKind) (a b : NodeId) (hk : way.Admits kind)
      (hl : r.Leads kind a b) : r.Leads way a b := hl.of_admits hk
  exact ⟨fun c hc => hfits.category c (hsub hc),
    fun t ht => way_of_triples hadmits node hfits.way (hways t ht)⟩

theorem restrict_eq_assign {m : Mapping} (hm : m.nodes = q.assign node)
    (hsub : p.categories ⊆ q.categories) : m.restrict p.categories = p.assign node := by
  have hnode (c : Category) (hc : c ∈ p.categories) :
      ((m.node? c).map fun id => (c, id)) = some (c, node c) := by
    rw [Mapping.node?, hm, lookup_assign (hsub hc), Option.map_some]
  rw [Mapping.restrict, List.filterMap_congr hnode]
  exact congrFun List.filterMap_eq_map p.categories

/-! ### The graph of a pattern -/

/-- Draws one category. -/
def drawCategory (r : ReducedGraph) (c : Category) : ReducedGraph := r.addNode c.id c

/-- Draws one triple. -/
def drawTriple (r : ReducedGraph) (t : Triple) : ReducedGraph :=
  r.addEdge t.head.id t.tail.id t.kind []

/-- The reduced graph that has what a pattern asks for and no more. -/
def toGraph (q : Pattern) : ReducedGraph :=
  q.triples.foldl drawTriple (q.categories.foldl drawCategory {})

theorem built_toGraph (q : Pattern) : q.toGraph.Built := by
  refine List.foldlRecOn (motive := ReducedGraph.Built) _ _ ?_ fun r h t _ => .addEdge _ _ _ _ h
  exact List.foldlRecOn (motive := ReducedGraph.Built) _ _ .empty fun r h c _ => .addNode _ _ h

theorem category?_foldl_drawCategory {categories : List Category} {id : NodeId} {c : Category} :
    (categories.foldl drawCategory {}).category? id = some c ↔ c ∈ categories ∧ id = c.id := by
  induction categories using List.reverseRecOn with
  | nil =>
    refine ⟨fun h => ?_, fun h => ?_⟩
    · cases h
    · cases h.1
  | append_singleton rest d ih =>
    rw [List.foldl_concat, drawCategory, ReducedGraph.category?_addNode, List.mem_append,
      List.mem_singleton]
    split
    · next hid =>
      rw [hid, Option.some_inj]
      exact ⟨fun he => he ▸ ⟨.inr rfl, rfl⟩, fun h => Category.eq_of_id_eq h.2⟩
    · next hid =>
      rw [ih]
      refine ⟨fun h => ⟨.inl h.1, h.2⟩, fun h => ⟨h.1.resolve_right fun he => hid ?_, h.2⟩⟩
      rw [h.2, he]

theorem category?_toGraph {id : NodeId} {c : Category} :
    q.toGraph.category? id = some c ↔ c ∈ q.categories ∧ id = c.id := by
  have hdraw : q.toGraph.category? id = (q.categories.foldl drawCategory {}).category? id :=
    List.foldlRecOn (motive := fun (r : ReducedGraph) =>
      r.category? id = (q.categories.foldl drawCategory {}).category? id) _ _ rfl fun _ h _ _ => h
  rw [hdraw, category?_foldl_drawCategory]

theorem leads_foldl_drawTriple {triples : List Triple} {a b : NodeId} :
    (triples.foldl drawTriple r).Leads kind a b ↔
      r.Leads kind a b ∨ ∃ t ∈ triples, a = t.head.id ∧ b = t.tail.id ∧ kind.Admits t.kind := by
  induction triples generalizing r with
  | nil => simp
  | cons t rest ih =>
    rw [List.foldl_cons, ih, drawTriple, ReducedGraph.leads_addEdge, List.exists_mem_cons_iff,
      or_assoc]

/-- The steps in the graph of a pattern are its triples. -/
theorem leads_toGraph {a b : NodeId} :
    q.toGraph.Leads kind a b ↔ ∃ t ∈ q.triples, a = t.head.id ∧ b = t.tail.id ∧
      kind.Admits t.kind := by
  have hnone : ¬ (q.categories.foldl drawCategory {}).Leads kind a b :=
    List.foldlRecOn (motive := fun (r : ReducedGraph) => ¬ r.Leads kind a b) _ _
      (fun ⟨_, he, _⟩ => nomatch he) fun _ h _ _ => h
  rw [toGraph, leads_foldl_drawTriple]
  exact or_iff_right hnone

theorem fits_toGraph (q : Pattern) : q.Fits q.toGraph Category.id :=
  ⟨fun _ hc => category?_toGraph.mpr ⟨hc, rfl⟩,
    fun t ht => .single (leads_toGraph.mpr ⟨t, ht, rfl, rfl, t.kind.admits_self⟩)⟩

theorem way_of_way_toGraph {a : Category} {x : NodeId}
    (h : Relation.TransGen (q.toGraph.Leads kind) a.id x) :
    ∃ b : Category, x = b.id ∧ Relation.TransGen (q.Leads kind) a b := by
  induction h with
  | single hl =>
    obtain ⟨t, ht, ha, rfl, hk⟩ := leads_toGraph.mp hl
    exact ⟨t.tail, rfl, .single ⟨t, ht, (Category.eq_of_id_eq ha).symm, rfl, hk⟩⟩
  | tail _ hl ih =>
    obtain ⟨b, rfl, hway⟩ := ih
    obtain ⟨t, ht, hb, rfl, hk⟩ := leads_toGraph.mp hl
    exact ⟨t.tail, rfl, .tail hway ⟨t, ht, (Category.eq_of_id_eq hb).symm, rfl, hk⟩⟩

/-- What matches in the graph of a pattern is subsumed by the pattern. -/
theorem isSubsumedBy_of_fits_toGraph (hp : p.WellFormed) (h : p.Fits q.toGraph node) :
    p.isSubsumedBy q = true := by
  have hnode (c : Category) (hc : c ∈ p.categories) : c ∈ q.categories ∧ node c = c.id :=
    category?_toGraph.mp (h.category c hc)
  refine isSubsumedBy_iff.mpr ⟨fun c hc => (hnode c hc).1, fun t ht => ?_⟩
  obtain ⟨hhead, htail⟩ := hp.ends t ht
  have hway := h.way t ht
  rw [(hnode _ hhead).2, (hnode _ htail).2] at hway
  obtain ⟨b, hb, hway⟩ := way_of_way_toGraph hway
  rwa [Category.eq_of_id_eq hb]

/-- **A pattern is subsumed by another exactly when it matches wherever the other does**, and then
the nodes of the other's matches, restricted to its categories, are matches of it. -/
theorem isSubsumedBy_iff_hasMatch (p q : Pattern) (hp : p.WellFormed) (hq : q.WellFormed) :
    (p.isSubsumedBy q = true ↔ ∀ r : ReducedGraph, r.Built → q.HasMatch r → p.HasMatch r) ∧
      (p.isSubsumedBy q = true → ∀ r : ReducedGraph, r.Built → ∀ wide m,
        (q.findMatches r .unlimited).run () = (.ok wide, ()) → m ∈ wide →
          ∃ narrow, (p.findMatches r .unlimited).run () = (.ok narrow, ()) ∧
            m.restrict p.categories ∈ narrow.map Mapping.nodes) := by
  refine ⟨⟨fun h r hr hmatch => ?_, fun h => ?_⟩, fun h r hr wide m hwide hm => ?_⟩
  · rw [hasMatch_iff hp hr]
    obtain ⟨node, hfits⟩ := (hasMatch_iff hq hr).mp hmatch
    exact ⟨node, hfits.of_isSubsumedBy h⟩
  · have hself : q.HasMatch q.toGraph :=
      (hasMatch_iff hq (built_toGraph q)).mpr ⟨_, fits_toGraph q⟩
    obtain ⟨node, hfits⟩ :=
      (hasMatch_iff hp (built_toGraph q)).mp (h q.toGraph (built_toGraph q) hself)
    exact isSubsumedBy_of_fits_toGraph hp hfits
  · have hmatch : m.nodes ∈ (q.matchesIn r).map Mapping.nodes :=
      List.mem_map_of_mem (eq_matchesIn_of_findMatches hwide ▸ hm)
    obtain ⟨node, hnodes, hfits⟩ := (mem_matchesIn hq hr).mp hmatch
    refine ⟨p.matchesIn r, by rw [findMatches_unlimited]; rfl, (mem_matchesIn hp hr).mpr ⟨node, ?_, ?_⟩⟩
    · exact restrict_eq_assign hnodes (isSubsumedBy_iff.mp h).1
    · exact hfits.of_isSubsumedBy h

/-- A file is read before a request. -/
def readBeforeRequest : Pattern :=
  .ofKey "steal" "read a file before a request" (.pair ⟨.readFile, .control, .httpRequest⟩) []

/-- The data of a file is encoded, again and again, and sent. -/
def encodeThenRequest : Pattern :=
  .ofKey "steal" "send the encoded data of a file" (.pair ⟨.readFile, .data, .encode⟩)
    [⟨.encode, .data, .httpRequest⟩, ⟨.encode, .control, .encode⟩]

theorem isSubsumedBy_iff_hasMatch_encodeThenRequest :
    readBeforeRequest.isSubsumedBy encodeThenRequest = true ∧
      ∀ r : ReducedGraph, r.Built → encodeThenRequest.HasMatch r →
        readBeforeRequest.HasMatch r := by
  have hsubsumed : readBeforeRequest.isSubsumedBy encodeThenRequest = true := by decide
  have hiff := (isSubsumedBy_iff_hasMatch readBeforeRequest encodeThenRequest
    (wellFormed_ofKey ..) (wellFormed_ofKey ..)).1
  exact ⟨hsubsumed, hiff.mp hsubsumed⟩

end Pattern

end PackageVet

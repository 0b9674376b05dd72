import PackageVet.CodeGraph
import PackageVet.Proofs.Sorted

/-! What the graph of all code answers about the nodes below a node.

An export may give the same edge many times, with any attributes on it, and may write the number of a
node in more than one way. The graph keeps one entry for two nodes that an edge of a known kind
joins, at the place of the first such edge, and adds the kinds of all later ones to it
(`Reads.insertDotEdge`). So the children and the arguments of a node are exactly the nodes of the
graph to which some edge of the kind leads, each once; they come in the order of an attribute, and
where that is the same in the order of the first edges (`queries_complete`).

A node without a readable place counts as one with the greatest place. It is not behind a node that
has the greatest place written on it (`unplaced_before_greatest`). -/
namespace PackageVet

/-! ### Edges of an export -/

def CodeEdgeKind.label : CodeEdgeKind → String
  | .child => "AST"
  | .argument => "ARGUMENT"
  | .call => "CALL"

theorem CodeEdgeKind.ofLabel?_eq_some {label : String} {kind : CodeEdgeKind} :
    ofLabel? label = some kind ↔ label = kind.label := by
  unfold ofLabel?
  constructor
  · intro h
    split at h
    · next hlabel => cases h; exact hlabel
    · split at h
      · next hlabel => cases h; exact hlabel
      · split at h
        · next hlabel => cases h; exact hlabel
        · cases h
  · intro h
    subst h
    cases kind <;> rfl

namespace Dot.Edge
variable {e : Edge} {source target s t : NodeId}

/-- Whether the ends of an edge are two nodes, however their numbers are written. -/
def Joins (e : Edge) (source target : NodeId) : Prop :=
  nodeId? e.source = some source ∧ nodeId? e.target = some target

instance : Decidable (e.Joins source target) := inferInstanceAs (Decidable (_ ∧ _))

theorem Joins.unique (h : e.Joins source target) (h' : e.Joins s t) : source = s ∧ target = t :=
  ⟨Option.some.inj (h.1.symm.trans h'.1), Option.some.inj (h.2.symm.trans h'.2)⟩

/-- The kinds that the values on an edge name. -/
def kinds (e : Edge) : List CodeEdgeKind :=
  e.attributes.filterMap fun a => CodeEdgeKind.ofLabel? a.2

theorem mem_kinds {kind : CodeEdgeKind} :
    kind ∈ e.kinds ↔ ∃ key, (key, kind.label) ∈ e.attributes := by
  simp only [kinds, List.mem_filterMap, CodeEdgeKind.ofLabel?_eq_some]
  constructor
  · intro h
    obtain ⟨⟨key, value⟩, hmem, hvalue⟩ := h
    exact ⟨key, hvalue ▸ hmem⟩
  · intro h
    obtain ⟨key, hmem⟩ := h
    exact ⟨(key, kind.label), hmem, rfl⟩

end Dot.Edge

/-- Whether some edge from one node to another has a value on it. -/
def Dot.Graph.Carries (graph : Dot.Graph) (source target : NodeId) (label : String) : Prop :=
  ∃ e ∈ graph.edges, e.Joins source target ∧ ∃ key, (key, label) ∈ e.attributes

/-- Whether an edge of a known kind joins two nodes. -/
def Dot.Edge.Links (e : Dot.Edge) (pair : NodeId × NodeId) : Prop :=
  e.Joins pair.1 pair.2 ∧ e.kinds ≠ []

instance {e : Dot.Edge} {pair : NodeId × NodeId} : Decidable (e.Links pair) :=
  inferInstanceAs (Decidable (_ ∧ _))

/-- The number of the first edge of a known kind that joins two nodes. -/
def firstLink (edges : List Dot.Edge) (pair : NodeId × NodeId) : Nat :=
  edges.findIdx fun e => e.Links pair

theorem firstLink_lt {edges : List Dot.Edge} {pair : NodeId × NodeId} :
    firstLink edges pair < edges.length ↔ ∃ e ∈ edges, e.Links pair := by
  simp [firstLink, List.findIdx_lt_length]

theorem firstLink_append {edges : List Dot.Edge} {pair : NodeId × NodeId}
    (h : ∃ e ∈ edges, e.Links pair) (e : Dot.Edge) :
    firstLink (edges ++ [e]) pair = firstLink edges pair := by
  have hlt := firstLink_lt.mpr h
  unfold firstLink at hlt ⊢
  rw [List.findIdx_append, if_pos hlt]

/-- The first edge that joins two nodes has all the edges before it. -/
theorem firstLink_append_self {edges : List Dot.Edge} {pair : NodeId × NodeId} {e : Dot.Edge}
    (hnew : ¬ ∃ e ∈ edges, e.Links pair) (h : e.Links pair) :
    firstLink (edges ++ [e]) pair = edges.length := by
  have hnot := mt firstLink_lt.mp hnew
  unfold firstLink at hnot ⊢
  rw [List.findIdx_append, if_neg hnot]
  simp [List.findIdx_cons, h]

namespace CodeGraph
variable {g : CodeGraph} {edges : List Dot.Edge} {source target id : NodeId} {pair : NodeId × NodeId}
  {kind k : CodeEdgeKind}

/-! ### One edge more -/

def kindsOf (g : CodeGraph) (pair : NodeId × NodeId) : List CodeEdgeKind :=
  (g.edges.get? pair).getD []

theorem mem_keys_of_mem_kindsOf (h : kind ∈ g.kindsOf pair) : pair ∈ g.edges.keys := by
  unfold kindsOf at h
  cases hfound : g.edges.get? pair with
  | none => simp [hfound] at h
  | some kinds =>
    apply (Table.contains_iff g.edges pair).mp
    simp [Table.contains, hfound]

theorem keys_insertEdge (g : CodeGraph) (source target : NodeId) (kind : CodeEdgeKind) :
    (g.insertEdge source target kind).edges.keys =
      if (source, target) ∈ g.edges.keys then g.edges.keys
      else g.edges.keys ++ [(source, target)] := by
  unfold insertEdge
  dsimp only
  split
  · next hmem => rw [if_pos (mem_keys_of_mem_kindsOf hmem)]
  · by_cases hknown : (source, target) ∈ g.edges.keys <;> simp [Table.keys_insert, hknown]

theorem mem_kindsOf_insertEdge :
    k ∈ (g.insertEdge source target kind).kindsOf pair ↔
      k ∈ g.kindsOf pair ∨ pair = (source, target) ∧ k = kind := by
  unfold insertEdge
  dsimp only
  split
  · next hmem =>
    refine ⟨.inl, fun h => h.elim (fun h => h) fun h => ?_⟩
    rw [h.1, h.2]
    exact hmem
  · by_cases hpair : pair = (source, target)
    · subst hpair
      simp [kindsOf]
    · simp [kindsOf, Table.get?_insert_of_ne _ _ hpair, hpair]

theorem keys_insertEdges (g : CodeGraph) (source target : NodeId) (kinds : List CodeEdgeKind) :
    (kinds.foldl (fun g kind => g.insertEdge source target kind) g).edges.keys =
      if kinds = [] ∨ (source, target) ∈ g.edges.keys then g.edges.keys
      else g.edges.keys ++ [(source, target)] := by
  induction kinds generalizing g with
  | nil => simp
  | cons kind rest ih =>
    rw [List.foldl_cons, ih, keys_insertEdge]
    by_cases hknown : (source, target) ∈ g.edges.keys <;> simp [hknown]

theorem mem_kindsOf_insertEdges (kinds : List CodeEdgeKind) :
    k ∈ (kinds.foldl (fun g kind => g.insertEdge source target kind) g).kindsOf pair ↔
      k ∈ g.kindsOf pair ∨ pair = (source, target) ∧ k ∈ kinds := by
  induction kinds generalizing g with
  | nil => simp
  | cons kind rest ih =>
    rw [List.foldl_cons, ih, mem_kindsOf_insertEdge, or_assoc, ← and_or_left, List.mem_cons]

theorem insertDotEdge_of_joins {e : Dot.Edge} (h : e.Joins source target) (g : CodeGraph) :
    g.insertDotEdge e = e.kinds.foldl (fun g kind => g.insertEdge source target kind) g := by
  unfold insertDotEdge
  rw [h.1, h.2]
  rfl

theorem insertDotEdge_of_not_joins {e : Dot.Edge} (h : ∀ source target, ¬ e.Joins source target)
    (g : CodeGraph) : g.insertDotEdge e = g := by
  unfold insertDotEdge
  split
  · next hsource htarget => exact absurd ⟨hsource, htarget⟩ (h _ _)
  · rfl

/-! ### All edges -/

/-- Whether a graph has what some edges of an export say. -/
structure Reads (edges : List Dot.Edge) (g : CodeGraph) : Prop where
  kinds : ∀ source target kind, kind ∈ g.kindsOf (source, target) ↔
    ∃ e ∈ edges, e.Joins source target ∧ kind ∈ e.kinds
  keys : ∀ pair, pair ∈ g.edges.keys ↔ ∃ e ∈ edges, e.Links pair
  order : g.edges.keys.Pairwise fun a b => firstLink edges a < firstLink edges b

namespace Reads
variable {e : Dot.Edge}

theorem firstLink_append (h : Reads edges g) (hpair : pair ∈ g.edges.keys) (e : Dot.Edge) :
    firstLink (edges ++ [e]) pair = firstLink edges pair :=
  PackageVet.firstLink_append ((h.keys pair).mp hpair) e

/-- What comes later does not change the order. -/
theorem order_append (h : Reads edges g) (e : Dot.Edge) :
    g.edges.keys.Pairwise fun a b => firstLink (edges ++ [e]) a < firstLink (edges ++ [e]) b := by
  apply h.order.imp_of_mem
  intro a b ha hb hlt
  rw [h.firstLink_append ha, h.firstLink_append hb]
  exact hlt

/-- An edge that joins no two nodes, or of no known kind, is passed over. -/
theorem skip (h : Reads edges g) (hnone : ∀ pair, ¬ e.Links pair) : Reads (edges ++ [e]) g := by
  refine ⟨fun source target kind => ?_, fun pair => ?_, h.order_append e⟩
  · have hnot : ¬ (e.Joins source target ∧ kind ∈ e.kinds) := fun hmem =>
      hnone (source, target) ⟨hmem.1, List.ne_nil_of_mem hmem.2⟩
    simp [h.kinds, or_and_right, exists_or, hnot]
  · simp [h.keys, or_and_right, exists_or, hnone pair]

/-- An edge of known kinds gives its kinds to the two nodes that it joins; nodes that were not
joined before come last. -/
theorem link (h : Reads edges g) (hlinks : e.Links (source, target)) :
    Reads (edges ++ [e]) (g.insertDotEdge e) := by
  obtain ⟨hjoins, hkinds⟩ := hlinks
  have hends (pair : NodeId × NodeId) : pair = (source, target) ↔ e.Joins pair.1 pair.2 := by
    constructor
    · intro hpair
      rw [hpair]
      exact hjoins
    · intro hpair
      exact Prod.ext (hpair.unique hjoins).1 (hpair.unique hjoins).2
  have hkeys : (g.insertDotEdge e).edges.keys =
      if (source, target) ∈ g.edges.keys then g.edges.keys
      else g.edges.keys ++ [(source, target)] := by
    rw [insertDotEdge_of_joins hjoins, keys_insertEdges]
    simp [hkinds]
  refine ⟨fun s t kind => ?_, fun pair => ?_, ?_⟩
  · rw [insertDotEdge_of_joins hjoins, mem_kindsOf_insertEdges, h.kinds, hends (s, t)]
    simp [or_and_right, exists_or]
  · have hmem : pair ∈ (g.insertDotEdge e).edges.keys ↔
        pair ∈ g.edges.keys ∨ pair = (source, target) := by
      rw [hkeys]
      split
      · next hknown => exact ⟨.inl, fun hp => hp.elim (fun hp => hp) fun hp => hp ▸ hknown⟩
      · simp
    rw [hmem, h.keys, hends pair]
    simp [or_and_right, exists_or, Dot.Edge.Links, hkinds]
  · rw [hkeys]
    split
    · exact h.order_append e
    · next hnew =>
      refine List.pairwise_append.mpr ⟨h.order_append e, List.pairwise_singleton .., fun a ha b hb => ?_⟩
      rw [List.mem_singleton.mp hb, h.firstLink_append ha,
        firstLink_append_self (mt (h.keys _).mpr hnew) ⟨hjoins, hkinds⟩]
      exact firstLink_lt.mpr ((h.keys a).mp ha)

/-- One edge more of an export. -/
theorem insertDotEdge (h : Reads edges g) (e : Dot.Edge) :
    Reads (edges ++ [e]) (g.insertDotEdge e) := by
  by_cases hlinks : ∃ pair, e.Links pair
  · obtain ⟨pair, hlinks⟩ := hlinks
    exact h.link hlinks
  · have hnone : ∀ pair, ¬ e.Links pair := not_exists.mp hlinks
    have hsame : g.insertDotEdge e = g := by
      by_cases hends : ∃ source target, e.Joins source target
      · obtain ⟨source, target, hjoins⟩ := hends
        have hkinds : e.kinds = [] := Classical.not_not.mp fun hne =>
          hnone (source, target) ⟨hjoins, hne⟩
        rw [insertDotEdge_of_joins hjoins, hkinds]
        rfl
      · exact insertDotEdge_of_not_joins (fun s t hjoins => hends ⟨s, t, hjoins⟩) g
    rw [hsame]
    exact h.skip hnone

theorem foldl_insertDotEdge {more : List Dot.Edge} (h : Reads edges g) :
    Reads (edges ++ more) (more.foldl CodeGraph.insertDotEdge g) := by
  induction more generalizing edges g with
  | nil => simpa using h
  | cons e rest ih =>
    rw [List.append_cons]
    exact ih (h.insertDotEdge e)

end Reads

@[simp] theorem nodes_insertEdge (g : CodeGraph) (source target : NodeId) (kind : CodeEdgeKind) :
    (g.insertEdge source target kind).nodes = g.nodes := by
  unfold insertEdge
  dsimp only
  split <;> rfl

theorem nodes_insertDotEdge (g : CodeGraph) (e : Dot.Edge) :
    (g.insertDotEdge e).nodes = g.nodes := by
  unfold insertDotEdge
  split
  · exact List.foldlRecOn (motive := fun (h : CodeGraph) => h.nodes = g.nodes) _ _ rfl
      fun h hh kind _ => by rw [nodes_insertEdge, hh]
  · rfl

/-- Whether a graph knows each node by its id. -/
def Keyed (g : CodeGraph) : Prop := ∀ id node, g.node? id = some node → node.id = id

theorem Keyed.insertDotNode (h : g.Keyed) (name : String) (attributes : Table String String) :
    (g.insertDotNode name attributes).Keyed := by
  intro id node hnode
  unfold CodeGraph.insertDotNode at hnode
  split at hnode
  · exact h id node hnode
  · simp only [node?, insertNode, Table.get?_insert] at hnode
    split at hnode
    · next hid =>
      cases hnode
      exact hid.symm
    · exact h id node hnode

/-- The nodes of an export, without its edges. -/
def ofDotNodes (graph : Dot.Graph) : CodeGraph :=
  graph.nodes.entries.foldl (fun g node => g.insertDotNode node.1 node.2) {}

theorem ofDot_eq (graph : Dot.Graph) :
    ofDot graph = graph.edges.foldl insertDotEdge (ofDotNodes graph) := rfl

theorem keyed_ofDotNodes (graph : Dot.Graph) : (ofDotNodes graph).Keyed := by
  refine List.foldlRecOn (motive := Keyed) _ _ ?_ fun g hg node _ => hg.insertDotNode node.1 node.2
  intro id node hnode
  cases hnode

theorem edges_ofDotNodes (graph : Dot.Graph) : (ofDotNodes graph).edges = {} := by
  refine List.foldlRecOn (motive := fun (g : CodeGraph) => g.edges = {}) _ _ rfl ?_
  intro g hg node _
  unfold insertDotNode
  split
  · exact hg
  · exact hg

theorem nodes_ofDot (graph : Dot.Graph) : (ofDot graph).nodes = (ofDotNodes graph).nodes :=
  List.foldlRecOn (motive := fun (g : CodeGraph) => g.nodes = (ofDotNodes graph).nodes) _ _ rfl
    fun g hg e _ => (nodes_insertDotEdge g e).trans hg

theorem keyed_ofDot (graph : Dot.Graph) : (ofDot graph).Keyed := by
  intro id node hnode
  apply keyed_ofDotNodes graph id node
  rw [node?, ← nodes_ofDot]
  exact hnode

theorem reads_ofDot (graph : Dot.Graph) : Reads graph.edges (ofDot graph) := by
  have hnothing : Reads [] (ofDotNodes graph) := by
    refine ⟨fun source target kind => ?_, fun pair => ?_, ?_⟩
    · simp [kindsOf, edges_ofDotNodes, Table.get?, Table.find?]
    · simp [edges_ofDotNodes, Table.keys]
    · simp [edges_ofDotNodes, Table.keys]
  rw [ofDot_eq]
  exact hnothing.foldl_insertDotEdge

/-! ### Queries -/

theorem Reads.nodup (h : Reads edges g) : g.edges.keys.Nodup :=
  h.order.imp fun hlt heq => by
    rw [heq] at hlt
    omega

theorem Reads.mem_targets (h : Reads edges g) {node : CodeNode} :
    node ∈ g.targets id kind ↔
      ∃ target, g.node? target = some node ∧ ∃ e ∈ edges, e.Joins id target ∧ kind ∈ e.kinds := by
  simp only [← h.kinds, targets, List.mem_filterMap]
  constructor
  · intro hnode
    obtain ⟨⟨⟨source, target⟩, kinds⟩, hmem, hnode⟩ := hnode
    dsimp only at hnode
    split at hnode
    · next hcond =>
      obtain ⟨rfl, hkind⟩ := hcond
      refine ⟨target, hnode, ?_⟩
      rw [kindsOf, (Table.get?_eq_some_iff h.nodup).mpr hmem]
      exact hkind
    · cases hnode
  · intro hnode
    obtain ⟨target, hnode, hkind⟩ := hnode
    have hfound : g.edges.get? (id, target) = some (g.kindsOf (id, target)) := by
      unfold kindsOf at hkind ⊢
      cases hget : g.edges.get? (id, target) with
      | none => simp [hget] at hkind
      | some kinds => rfl
    refine ⟨((id, target), g.kindsOf (id, target)),
      (Table.get?_eq_some_iff h.nodup).mp hfound, ?_⟩
    dsimp only
    rw [if_pos ⟨rfl, hkind⟩]
    exact hnode

/-- Whether the edge to a node came before that to another. -/
def LinkedBefore (edges : List Dot.Edge) (id : NodeId) (a b : CodeNode) : Prop :=
  firstLink edges (id, a.id) < firstLink edges (id, b.id)

theorem Reads.pairwise_targets (h : Reads edges g) (hkeyed : g.Keyed) (id : NodeId)
    (kind : CodeEdgeKind) : (g.targets id kind).Pairwise (LinkedBefore edges id) := by
  have hentries : g.edges.entries.Pairwise fun a b =>
      firstLink edges a.1 < firstLink edges b.1 := by
    have hkeys := h.order
    rw [Table.keys, List.pairwise_map] at hkeys
    exact hkeys
  refine hentries.filterMap _ fun a b hlt n hn m hm => ?_
  have hpair (entry : (NodeId × NodeId) × List CodeEdgeKind) (node : CodeNode)
      (hnode : (if entry.1.1 = id ∧ kind ∈ entry.2 then g.node? entry.1.2 else none) = some node) :
      entry.1 = (id, node.id) := by
    split at hnode
    · next hcond => exact Prod.ext hcond.1 (hkeyed _ _ hnode).symm
    · cases hnode
  show firstLink edges (id, n.id) < firstLink edges (id, m.id)
  rw [← hpair a n hn, ← hpair b m hm]
  exact hlt

/-- Whether some nodes are those of the graph to which an edge with a value leads, each once. -/
structure Lists (graph : Dot.Graph) (id : NodeId) (label : String) (nodes : List CodeNode) :
    Prop where
  mem : ∀ node, node ∈ nodes ↔
    (ofDot graph).node? node.id = some node ∧ graph.Carries id node.id label
  once : (nodes.map CodeNode.id).Nodup

theorem lists_targets (graph : Dot.Graph) (id : NodeId) (kind : CodeEdgeKind) :
    Lists graph id kind.label ((ofDot graph).targets id kind) := by
  have hreads := reads_ofDot graph
  have hkeyed := keyed_ofDot graph
  constructor
  · intro node
    rw [hreads.mem_targets]
    simp only [Dot.Edge.mem_kinds, Dot.Graph.Carries]
    constructor
    · intro h
      obtain ⟨target, hnode, hedge⟩ := h
      rw [hkeyed target node hnode]
      exact ⟨hnode, hedge⟩
    · intro h
      exact ⟨node.id, h⟩
  · refine List.pairwise_map.mpr ((hreads.pairwise_targets hkeyed id kind).imp fun hlt heq => ?_)
    unfold LinkedBefore at hlt
    rw [heq] at hlt
    omega

theorem Lists.perm {graph : Dot.Graph} {label : String} {nodes nodes' : List CodeNode}
    (h : Lists graph id label nodes) (hperm : nodes'.Perm nodes) : Lists graph id label nodes' where
  mem node := hperm.mem_iff.trans (h.mem node)
  once := (hperm.map CodeNode.id).nodup_iff.mpr h.once

end CodeGraph

/-- The place that an attribute gives a node, if there is one that can be read. -/
def CodeNode.place? (n : CodeNode) (key : String) : Option Int :=
  (n.attribute? key).bind fun text =>
    Text.readSigned Text.signedMin Text.signedMax (Text.trim text.toList)

theorem CodeNode.place_eq (n : CodeNode) (key : String) :
    n.place key = (n.place? key).getD Text.signedMax := rfl

theorem CodeNode.place?_le {n : CodeNode} {key : String} {place : Int}
    (h : n.place? key = some place) : place ≤ Text.signedMax := by
  obtain ⟨text, -, hread⟩ := Option.bind_eq_some_iff.mp h
  simp only [Text.readSigned, Option.filter_eq_some_iff, Bool.and_eq_true, decide_eq_true_eq] at hread
  exact hread.2.2

namespace CodeGraph

/-- Whether nodes are in the order of an attribute, and where it is the same in that of the first
edges to them. A node without a place counts as one with the greatest place. -/
structure Placed (graph : Dot.Graph) (id : NodeId) (key : String) (nodes : List CodeNode) :
    Prop where
  ascending : nodes.Pairwise fun a b =>
    (a.place? key).getD Text.signedMax < (b.place? key).getD Text.signedMax ∨
      (a.place? key).getD Text.signedMax = (b.place? key).getD Text.signedMax ∧
        firstLink graph.edges (id, a.id) < firstLink graph.edges (id, b.id)
  unplaced : nodes.Pairwise fun a b =>
    a.place? key = none → ∀ place, b.place? key = some place → place = Text.signedMax

theorem placed_sortedTargets (graph : Dot.Graph) (id : NodeId) (kind : CodeEdgeKind)
    (key : String) : Placed graph id key ((ofDot graph).sortedTargets id kind key) := by
  have hbefore : ((ofDot graph).sortedTargets id kind key).Pairwise
      (Sorted.Before (fun node => node.place key) (LinkedBefore graph.edges id)) :=
    Sorted.pairwise_orderBy ((reads_ofDot graph).pairwise_targets (keyed_ofDot graph) id kind)
  constructor
  · apply hbefore.imp
    intro a b h
    obtain ⟨hle, hlinked⟩ := h
    rw [← CodeNode.place_eq, ← CodeNode.place_eq]
    by_cases hge : b.place key ≤ a.place key
    · exact .inr ⟨Int.le_antisymm hle hge, hlinked hge⟩
    · exact .inl (Int.not_le.mp hge)
  · apply hbefore.imp
    intro a b h hunplaced place hplace
    have hle := h.1
    simp only [CodeNode.place_eq, hunplaced, hplace, Option.getD_none, Option.getD_some] at hle
    exact Int.le_antisymm (CodeNode.place?_le hplace) hle

theorem lists_sortedTargets (graph : Dot.Graph) (id : NodeId) (kind : CodeEdgeKind)
    (key : String) : Lists graph id kind.label ((ofDot graph).sortedTargets id kind key) :=
  (lists_targets graph id kind).perm (Sorted.orderBy_perm ..)

/-- **The nodes below a node are all there, once, and in order.** -/
theorem queries_complete (graph : Dot.Graph) (id : NodeId) :
    let g := ofDot graph
    (Lists graph id "AST" (g.children id) ∧ Placed graph id "ORDER" (g.children id)) ∧
    (Lists graph id "ARGUMENT" (g.arguments id) ∧
      Placed graph id "ARGUMENT_INDEX" (g.arguments id)) ∧
    ∃ called, Lists graph id "CALL" called ∧
      (called.Pairwise fun a b =>
        firstLink graph.edges (id, a.id) < firstLink graph.edges (id, b.id)) ∧
      g.callTarget? id = called.head? := by
  intro g
  refine ⟨⟨?_, ?_⟩, ⟨?_, ?_⟩, g.targets id .call, ?_, ?_, rfl⟩
  · exact lists_sortedTargets graph id .child "ORDER"
  · exact placed_sortedTargets graph id .child "ORDER"
  · exact lists_sortedTargets graph id .argument "ARGUMENT_INDEX"
  · exact placed_sortedTargets graph id .argument "ARGUMENT_INDEX"
  · exact lists_targets graph id .call
  · exact (reads_ofDot graph).pairwise_targets (keyed_ofDot graph) id .call

/-- A node with two children, the first without a place and the second with the greatest one. -/
def greatestPlace : Dot.Graph :=
  let g := (({} : Dot.Graph).addNode "1" []).addNode "2" []
  let g := g.addNode "3" [("ORDER", "9223372036854775807")]
  (g.addEdge "1" "2" [("label", "AST")]).addEdge "1" "3" [("label", "AST")]

theorem unplaced_before_greatest :
    (((ofDot greatestPlace).children 1).map fun node => (node.id, node.place? "ORDER")) =
      [(2, none), (3, some Text.signedMax)] ∧
    ¬ ((ofDot greatestPlace).children 1).Pairwise fun a b =>
      a.place? "ORDER" = none → b.place? "ORDER" = none := by
  decide +kernel

end CodeGraph

end PackageVet

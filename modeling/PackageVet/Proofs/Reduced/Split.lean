import PackageVet.Reduced.Extract

/-! After splitting, a node of the graph has one category at most.

Splitting a node leaves it one category and gives one to each node that it puts behind it
(`splitNode_single`), and a node that has one keeps to one. Every node of the graph is split or was
made by splitting, so in the graph that comes out to be sensitive of a category is to have that
category (`categoryOf?_splitAll`). -/
namespace PackageVet

/-- Whether a node of the graph is sensitive and a category is among its own. -/
def BehaviorGraph.SensitiveAs (g : BehaviorGraph) (arena : Arena) (id : NodeId) (c : Category) :
    Prop :=
  id ∈ g.nodes ∧ ∃ node, arena.get? id = some node ∧ c ∈ node.categories

theorem BehaviorGraph.mem_nodes_addNode {g : BehaviorGraph} {id other : NodeId} :
    other ∈ (g.addNode id).nodes ↔ other ∈ g.nodes ∨ other = id := by
  unfold addNode
  split
  · next h => exact ⟨.inl, fun ho => ho.elim (fun hm => hm) fun he => he ▸ h⟩
  · simp

theorem BehaviorGraph.nodes_moveOutEdges (g : BehaviorGraph) (origin heir : NodeId) :
    (g.moveOutEdges origin heir).nodes = g.nodes :=
  List.foldlRecOn (motive := fun (h : BehaviorGraph) => h.nodes = g.nodes) _ _ rfl
    fun _ ih _ _ => ih

/-- Whether a node has one category at most. -/
def Arena.Single (arena : Arena) (id : NodeId) : Prop :=
  ∀ node, arena.get? id = some node → node.categories.length ≤ 1

theorem Arena.single_insertNode {arena : Arena} {node : ProgramNode} {id : NodeId}
    (hnode : node.categories.length ≤ 1) (h : id = node.id ∨ arena.Single id) :
    (arena.insertNode node).Single id := by
  intro found hfound
  rw [Arena.insertNode, Table.get?_insert] at hfound
  split at hfound
  · cases hfound
    exact hnode
  · next hne => exact h.resolve_left hne found hfound

theorem Arena.single_markSensitive {arena : Arena} {id other : NodeId} {c : Category}
    (h : other = id ∨ arena.Single other) :
    Arena.Single (arena.modify id fun node => node.markSensitive [c]) other := by
  intro found hfound
  rw [Table.get?_modify] at hfound
  split at hfound
  · obtain ⟨node, -, rfl⟩ := Option.map_eq_some_iff.mp hfound
    simp [ProgramNode.markSensitive, ProgramNode.categories]
  · next hne => exact h.resolve_left hne found hfound

namespace Splitting
variable {s : Splitting} {node : ProgramNode} {previous id : NodeId} {ids : List NodeId}

/-- Whether the nodes of the graph that are still to be split are on a list. -/
def SingleBut (s : Splitting) (ids : List NodeId) : Prop :=
  ∀ id ∈ s.graph.nodes, id ∉ ids → s.arena.Single id

/-- A chain adds nodes of one category. -/
theorem extendChain_single (categories : List Category) (h : s.SingleBut ids) :
    (extendChain node previous categories s).SingleBut ids := by
  induction categories generalizing previous s with
  | nil => exact h
  | cons c rest ih =>
    refine ih fun id hid hnot => Arena.single_insertNode (by simp [part, ProgramNode.categories]) ?_
    have hmem : id ∈ (s.graph.addNode s.code.freshId.1).nodes := by
      rw [← BehaviorGraph.nodes_moveOutEdges _ previous s.code.freshId.1]
      exact hid
    rcases BehaviorGraph.mem_nodes_addNode.mp hmem with hold | hnew
    · exact .inr (h id hold hnot)
    · exact .inl hnew

theorem splitNode_single (h : s.SingleBut (id :: ids)) : (s.splitNode id).SingleBut ids := by
  -- where nothing is split, the node has one category already
  have hkeep (hid : s.arena.Single id) : s.SingleBut ids := by
    intro other hother hnot
    by_cases he : other = id
    · exact he ▸ hid
    · exact h other hother (by simp [he, hnot])
  unfold splitNode
  cases hget : s.arena.get? id with
  | none => exact hkeep fun node hnode => by simp [hget] at hnode
  | some node =>
    dsimp only
    split
    · refine extendChain_single _ fun other hother hnot => Arena.single_markSensitive ?_
      by_cases he : other = id
      · exact .inl he
      · exact .inr (h other hother (by simp [he, hnot]))
    · next hshort =>
      refine hkeep fun found hfound => ?_
      cases hget.symm.trans hfound
      rcases hc : node.categories with _ | ⟨first, _ | ⟨second, rest⟩⟩
      · simp
      · simp
      · exact absurd hc (hshort first second rest)

theorem splitAll_single (s : Splitting) : s.splitAll.SingleBut [] := by
  suffices ∀ ids (s : Splitting), s.SingleBut ids → (ids.foldl splitNode s).SingleBut [] from
    this _ s fun id hid hnot => absurd hid hnot
  intro ids
  induction ids with
  | nil => exact fun s h => h
  | cons id rest ih => exact fun s h => ih _ (splitNode_single h)

theorem categoryOf?_splitAll (s : Splitting) (id : NodeId) (c : Category) :
    s.splitAll.graph.categoryOf? s.splitAll.arena id = some c ↔
      s.splitAll.graph.SensitiveAs s.splitAll.arena id c := by
  unfold BehaviorGraph.categoryOf? BehaviorGraph.SensitiveAs BehaviorGraph.contains
  by_cases hid : id ∈ s.splitAll.graph.nodes
  · simp only [hid, decide_true, if_true, true_and, Option.bind_eq_some_iff]
    refine exists_congr fun node => and_congr_right fun hget => ?_
    have hsingle := splitAll_single s id hid (by simp) node hget
    rcases hc : node.categories with _ | ⟨only, _ | ⟨second, rest⟩⟩
    · simp [ProgramNode.category?, hc]
    · simp [ProgramNode.category?, hc, eq_comm]
    · simp [hc] at hsingle
  · simp [hid]

end Splitting

end PackageVet

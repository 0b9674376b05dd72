import Mathlib.Data.List.Forall2
import PackageVet.Proofs.FreshIds
import PackageVet.Proofs.Reduced.Chains

/-! Splitting refines the graph.

A node with several categories becomes the head of a chain with one node for each, and nothing else
changes: the edges that left the node leave the end of its chain, and there is a way between two
nodes just when there was one (`splitAll_refines`). Nodes are split one after another, so what holds
along the way is said of a graph some of whose nodes have been split (`Partway`). -/
namespace PackageVet

/-! ### Nodes that are split -/

/-- The categories of a node for which splitting makes nodes: all but the first. -/
def Arena.spare (arena : Arena) (id : NodeId) : List Category :=
  ((arena.get? id).map fun node => node.categories.tail).getD []

namespace Splitting
variable {s after : Splitting} {node : ProgramNode} {parts : NodeId → List NodeId}
  {previous v id : NodeId} {ids done : List NodeId} {c : Category} {categories : List Category}

theorem splitNode_of_spare_eq_nil (h : s.arena.spare v = []) : s.splitNode v = s := by
  unfold splitNode
  cases hget : s.arena.get? v with
  | none => rfl
  | some node =>
    have htail : node.categories.tail = [] := by simpa [Arena.spare, hget] using h
    dsimp only
    split
    · next first second rest hcategories => simp [hcategories] at htail
    · rfl

theorem splitNode_of_spare_ne_nil (hnode : s.arena.get? v = some node)
    (hcategories : node.categories = c :: categories) (hspare : categories ≠ []) :
    s.splitNode v = extendChain node v categories
      { s with arena := s.arena.modify v fun n => n.markSensitive [c] } := by
  obtain ⟨second, rest, rfl⟩ := List.exists_cons_of_ne_nil hspare
  unfold splitNode
  simp only [hnode, hcategories]

/-! ### One chain -/

/-- Puts a part of a node at each of some ids. -/
def insertParts (node : ProgramNode) (arena : Arena) (pairs : List (NodeId × Category)) : Arena :=
  pairs.foldl (fun arena pair => arena.insertNode (part node pair.1 pair.2)) arena

theorem extendChain_eq (node : ProgramNode) (previous : NodeId) (categories : List Category)
    (s : Splitting) :
    extendChain node previous categories s =
      { graph := s.graph.putAllBehind previous (s.code.freshIds categories.length).1
        arena := insertParts node s.arena ((s.code.freshIds categories.length).1.zip categories)
        code := (s.code.freshIds categories.length).2 } := by
  induction categories generalizing previous s with
  | nil => rfl
  | cons c rest ih => exact ih _ _

theorem get?_insertParts_of_not_mem {arena : Arena} {pairs : List (NodeId × Category)}
    (h : id ∉ pairs.map Prod.fst) :
    Table.get? (insertParts node arena pairs) id = arena.get? id := by
  induction pairs generalizing arena with
  | nil => rfl
  | cons pair rest ih =>
    obtain ⟨hne, hrest⟩ := not_or.mp (fun hmem => h (List.mem_cons.mpr hmem))
    refine (ih hrest).trans ?_
    exact Table.get?_insert_of_ne arena _ hne

theorem get?_insertParts {arena : Arena} {pairs : List (NodeId × Category)}
    (hnodup : (pairs.map Prod.fst).Nodup) (h : (id, c) ∈ pairs) :
    Table.get? (insertParts node arena pairs) id = some (part node id c) := by
  induction pairs generalizing arena with
  | nil => cases h
  | cons pair rest ih =>
    obtain ⟨hpair, hrest⟩ := List.nodup_cons.mp hnodup
    rcases List.mem_cons.mp h with rfl | h
    · refine (get?_insertParts_of_not_mem hpair).trans ?_
      exact Table.get?_insert_self arena id _
    · exact ih hrest h

/-- What splitting one node into a chain does. -/
structure SplitAt (s : Splitting) (v : NodeId) (node : ProgramNode) (c : Category)
    (categories : List Category) (ids : List NodeId) (after : Splitting) : Prop where
  graph : after.graph = s.graph.putAllBehind v ids
  code : after.code = (s.code.freshIds categories.length).2
  head : after.arena.get? v = some (node.markSensitive [c])
  tail : List.Forall₂ (fun id c => after.arena.get? id = some (part node id c)) ids categories
  others : ∀ id, id ≠ v → id ∉ ids → after.arena.get? id = s.arena.get? id

theorem splitNode_splitAt (hnode : s.arena.get? v = some node)
    (hcategories : node.categories = c :: categories) (hspare : categories ≠ [])
    (hids : ids = (s.code.freshIds categories.length).1) (hnodup : ids.Nodup) (hv : v ∉ ids) :
    s.SplitAt v node c categories ids (s.splitNode v) := by
  have hlength : ids.length = categories.length := by rw [hids, CodeGraph.length_freshIds]
  have hfirsts : (ids.zip categories).map Prod.fst = ids := List.map_fst_zip (by omega)
  rw [splitNode_of_spare_ne_nil hnode hcategories hspare, extendChain_eq, ← hids]
  constructor
  · rfl
  · rfl
  · refine (get?_insertParts_of_not_mem (by rwa [hfirsts])).trans ?_
    rw [Table.get?_modify, if_pos rfl, hnode]
    rfl
  · refine List.forall₂_iff_zip.mpr ⟨hlength, fun hmem => ?_⟩
    exact get?_insertParts (by rwa [hfirsts]) hmem
  · intro id hne hid
    refine (get?_insertParts_of_not_mem (by rwa [hfirsts])).trans ?_
    rw [Table.get?_modify, if_neg hne]

/-! ### Fresh ids -/

/-- How many nodes are made for the nodes on a list. -/
def need (s : Splitting) (ids : List NodeId) : Nat := (ids.flatMap s.arena.spare).length

/-- The ids that are given to them. -/
def idsFor (s : Splitting) (ids : List NodeId) : List NodeId := (s.code.freshIds (s.need ids)).1

theorem need_append (s : Splitting) (xs ys : List NodeId) :
    s.need (xs ++ ys) = s.need xs + s.need ys := by
  simp [need]

theorem need_singleton (s : Splitting) (v : NodeId) : s.need [v] = (s.arena.spare v).length := by
  simp [need]

theorem idsFor_append (s : Splitting) (xs ys : List NodeId) :
    s.idsFor (xs ++ ys) =
      s.idsFor xs ++ ((s.code.freshIds (s.need xs)).2.freshIds (s.need ys)).1 := by
  rw [idsFor, need_append, CodeGraph.freshIds_add]
  rfl

/-- Whether the ids that are given to the new nodes of a list stand neither in the graph nor in the
arena yet. -/
structure FreshFor (s : Splitting) (ids : List NodeId) : Prop where
  nodup : (s.idsFor ids).Nodup
  graph : ∀ id ∈ s.idsFor ids, ¬ s.graph.Has id
  arena : ∀ id ∈ s.idsFor ids, s.arena.get? id = none

theorem FreshFor.of_append {xs ys : List NodeId} (h : s.FreshFor (xs ++ ys)) : s.FreshFor xs := by
  have hsub : s.idsFor xs ⊆ s.idsFor (xs ++ ys) := by
    rw [idsFor_append]
    exact List.subset_append_left ..
  have hnodup := h.nodup
  rw [idsFor_append] at hnodup
  exact ⟨(List.nodup_append.mp hnodup).1, fun id hid => h.graph id (hsub hid),
    fun id hid => h.arena id (hsub hid)⟩

/-- Ids are fresh as long as those of the graph and the arena have been counted and the words do
not run out. -/
theorem FreshFor.of_counted (hroom : s.need ids + s.code.lastId ≤ Text.wordMax)
    (hnodes : ∀ id ∈ s.graph.nodes, id ≤ s.code.lastId)
    (hedges : ∀ e ∈ s.graph.edges.keys, e.1 ≤ s.code.lastId ∧ e.2 ≤ s.code.lastId)
    (harena : ∀ id ∈ s.arena.keys, id ≤ s.code.lastId) : s.FreshFor ids := by
  have habove (id : NodeId) (hid : id ∈ s.idsFor ids) : s.code.lastId < id :=
    CodeGraph.lt_of_mem_freshIds hroom hid
  constructor
  · exact (CodeGraph.nodup_freshIds _ _).mpr (by omega)
  · intro id hid hhas
    have hlt := habove id hid
    rcases hhas with hnode | ⟨other, hsource | htarget⟩
    · exact absurd hlt (Nat.not_lt.mpr (hnodes id hnode))
    · exact absurd hlt (Nat.not_lt.mpr (hedges _ (BehaviorGraph.mem_keys_edges.mpr hsource)).1)
    · exact absurd hlt (Nat.not_lt.mpr (hedges _ (BehaviorGraph.mem_keys_edges.mpr htarget)).2)
  · intro id hid
    rw [← Option.not_isSome_iff_eq_none]
    intro hsome
    have hkey : id ∈ s.arena.keys := (Table.contains_iff s.arena id).mp hsome
    exact absurd (habove id hid) (Nat.not_lt.mpr (harena id hkey))

/-! ### Some nodes split -/

/-- Whether a node and the nodes behind it share its categories, in their order. -/
structure SharedOut (before after : Arena) (v : NodeId) (ids : List NodeId) : Prop where
  head : ∀ node c, before.get? v = some node → node.categories = c :: before.spare v →
    before.spare v ≠ [] → after.get? v = some (node.markSensitive [c])
  tail : List.Forall₂ (fun id c => ∃ node, before.get? v = some node ∧
    after.get? id = some (part node id c)) ids (before.spare v)

theorem SharedOut.of_same {before middle after : Arena} (h : SharedOut before middle v ids)
    (hsame : ∀ id ∈ v :: ids, after.get? id = middle.get? id) : SharedOut before after v ids where
  head node c hnode hcategories hspare := by
    rw [hsame v (List.mem_cons_self ..)]
    exact h.head node c hnode hcategories hspare
  tail := by
    obtain ⟨hlength, hzip⟩ := List.forall₂_iff_zip.mp h.tail
    refine List.forall₂_iff_zip.mpr ⟨hlength, fun {id} {c} hmem => ?_⟩
    rw [hsame id (List.mem_cons_of_mem v (List.of_mem_zip hmem).1)]
    exact hzip hmem

theorem SplitAt.sharedOut {before : Arena} (hnode : before.get? v = some node)
    (hcategories : node.categories = c :: before.spare v)
    (h : s.SplitAt v node c (before.spare v) ids after) :
    SharedOut before after.arena v ids where
  head found first hfound hfirst _ := by
    cases hnode.symm.trans hfound
    obtain ⟨rfl, -⟩ := List.cons.inj (hcategories.symm.trans hfirst)
    exact h.head
  tail := h.tail.imp fun _ _ hpart => ⟨node, hnode, hpart⟩

/-- What holds when the nodes on a list have been split. -/
structure Partway (s : Splitting) (done : List NodeId) (parts : NodeId → List NodeId)
    (after : Splitting) : Prop where
  graph : s.graph.OfChains parts after.graph
  shell : after.graph.withoutEdges =
    { s.graph.withoutEdges with nodes := s.graph.nodes ++ done.flatMap parts }
  ids : done.flatMap parts = s.idsFor done
  code : after.code = (s.code.freshIds (s.need done)).2
  shared : ∀ v ∈ done, v ∈ s.graph.nodes ∧ SharedOut s.arena after.arena v (parts v)
  todo : ∀ v, v ∉ done → parts v = []
  others : ∀ id, (id ∈ done → s.arena.spare id = []) → id ∉ done.flatMap parts →
    after.arena.get? id = s.arena.get? id

theorem Partway.start (hwell : s.graph.WellFormed) : s.Partway [] (fun _ => []) s where
  graph := by
    refine ⟨⟨by simp, by simp, by simp, by simp⟩, ?_, hwell⟩
    intro a b tags
    have hlone : ¬ BehaviorGraph.Neighbours (fun _ => []) a b := by
      rintro ⟨v, hv⟩
      have hlen := hv.length_le
      simp at hlen
    simp [hlone, BehaviorGraph.lastPart]
  shell := by simp [BehaviorGraph.withoutEdges]
  ids := rfl
  code := rfl
  shared _ hv := nomatch hv
  todo _ _ := rfl
  others _ _ _ := rfl

theorem Partway.skip (h : s.Partway done parts after) (hv : v ∈ s.graph.nodes) (hdone : v ∉ done)
    (hspare : s.arena.spare v = []) : s.Partway (done ++ [v]) parts after := by
  have hflat : (done ++ [v]).flatMap parts = done.flatMap parts := by simp [h.todo v hdone]
  have hneed : s.need (done ++ [v]) = s.need done := by
    rw [need_append, need_singleton, hspare]
    rfl
  refine { h with shell := ?_, ids := ?_, code := ?_, shared := ?_, todo := ?_, others := ?_ }
  · rw [hflat]
    exact h.shell
  · rw [hflat, idsFor, hneed]
    exact h.ids
  · rw [hneed]
    exact h.code
  · intro u hu
    rcases List.mem_append.mp hu with hu | hu
    · exact h.shared u hu
    · obtain rfl := List.mem_singleton.mp hu
      refine ⟨hv, fun _ _ _ _ hne => absurd hspare hne, ?_⟩
      rw [hspare, h.todo u hdone]
      exact .nil
  · exact fun u hu => h.todo u fun hmem => hu (List.mem_append_left _ hmem)
  · intro id hid hnot
    rw [hflat] at hnot
    exact h.others id (fun hmem => hid (List.mem_append_left _ hmem)) hnot

/-- The ids that come next are in no chain yet, nor in the graph. -/
theorem Partway.new (h : s.Partway done parts after) (hfresh : s.FreshFor (done ++ [v]))
    (hall : s.idsFor (done ++ [v]) = done.flatMap parts ++ ids) :
    ids.Nodup ∧ ∀ n ∈ ids, s.graph.New parts n := by
  obtain ⟨-, hnodup, hapart⟩ := List.nodup_append.mp (hall ▸ hfresh.nodup)
  refine ⟨hnodup, fun n hn => ⟨?_, fun u hu => ?_⟩⟩
  · exact hfresh.graph n (hall ▸ List.mem_append_right _ hn)
  · by_cases hdone : u ∈ done
    · exact hapart n (List.mem_flatMap.mpr ⟨u, hdone, hu⟩) n hn rfl
    · rw [h.todo u hdone] at hu
      cases hu

theorem Partway.split (h : s.Partway done parts after) {next : Splitting} (hv : v ∈ s.graph.nodes)
    (hdone : v ∉ done) (hnode : s.arena.get? v = some node)
    (hcategories : node.categories = c :: s.arena.spare v) (hspare : s.arena.spare v ≠ [])
    (hfresh : s.FreshFor (done ++ [v])) (hall : s.idsFor (done ++ [v]) = done.flatMap parts ++ ids)
    (hsplit : after.SplitAt v node c (s.arena.spare v) ids next) :
    s.Partway (done ++ [v]) (BehaviorGraph.extendParts parts v ids) next := by
  obtain ⟨hnodup, hnew⟩ := h.new hfresh hall
  have hempty : parts v = [] := h.todo v hdone
  have hkept (u : NodeId) (hu : u ∈ done) : BehaviorGraph.extendParts parts v ids u = parts u :=
    BehaviorGraph.extendParts_of_ne parts ids fun he => hdone (he ▸ hu)
  have hflat : (done ++ [v]).flatMap (BehaviorGraph.extendParts parts v ids) =
      done.flatMap parts ++ ids := by
    rw [List.flatMap_append, List.flatMap_congr hkept]
    simp [hempty]
  constructor
  · have hlast : BehaviorGraph.lastPart parts v = v := by simp [BehaviorGraph.lastPart, hempty]
    have hgraph := h.graph.extendAll hv hnodup hnew
    rwa [hlast, ← hsplit.graph] at hgraph
  · have hnodes : after.graph.nodes = s.graph.nodes ++ done.flatMap parts :=
      congrArg BehaviorGraph.nodes h.shell
    rw [hsplit.graph, BehaviorGraph.withoutEdges_putAllBehind hnodup, h.shell, hnodes, hflat,
      List.append_assoc]
    intro n hn hmem
    rw [hnodes] at hmem
    rcases List.mem_append.mp hmem with hmem | hmem
    · exact (hnew n hn).1 (.inl hmem)
    · obtain ⟨u, -, hu⟩ := List.mem_flatMap.mp hmem
      exact (hnew n hn).2 u hu
  · rw [hflat, hall]
  · rw [hsplit.code, h.code, need_append, need_singleton, CodeGraph.freshIds_add]
  · intro u hu
    rcases List.mem_append.mp hu with hold | hlast
    · -- no chain that was there shares a node with the new one
      obtain ⟨hmem, hshared⟩ := h.shared u hold
      rw [hkept u hold]
      refine ⟨hmem, hshared.of_same fun id hid => hsplit.others id ?_ ?_⟩
      · rintro rfl
        have he := h.graph.chains.owner (.inl hmem) (.inl hv) hid (List.mem_cons_self ..)
        exact hdone (he ▸ hold)
      · exact fun hids => (hnew id hids).not_mem_chain (.inl hmem) hid
    · obtain rfl := List.mem_singleton.mp hlast
      rw [BehaviorGraph.extendParts_self, hempty]
      exact ⟨hv, hsplit.sharedOut hnode hcategories⟩
  · intro u hu
    have hne : u ≠ v := fun he => hu (by simp [he])
    rw [BehaviorGraph.extendParts_of_ne parts ids hne]
    exact h.todo u fun hmem => hu (List.mem_append_left _ hmem)
  · intro id hid hnot
    rw [hflat, List.mem_append, not_or] at hnot
    have hne : id ≠ v := fun he => hspare (he ▸ hid (by simp [he]))
    rw [hsplit.others id hne hnot.2]
    exact h.others id (fun hmem => hid (List.mem_append_left _ hmem)) hnot.1

theorem Partway.step (h : s.Partway done parts after) (hv : v ∈ s.graph.nodes) (hdone : v ∉ done)
    (hfresh : s.FreshFor (done ++ [v])) :
    ∃ parts, s.Partway (done ++ [v]) parts (after.splitNode v) := by
  have hout : v ∉ done.flatMap parts := by
    intro hmem
    obtain ⟨u, -, hu⟩ := List.mem_flatMap.mp hmem
    exact h.graph.chains.fresh u v hu (.inl hv)
  have hsame : after.arena.get? v = s.arena.get? v :=
    h.others v (fun hmem => absurd hmem hdone) hout
  by_cases hspare : s.arena.spare v = []
  · rw [splitNode_of_spare_eq_nil (by rw [Arena.spare, hsame]; exact hspare)]
    exact ⟨parts, h.skip hv hdone hspare⟩
  · obtain ⟨node, c, hnode, hcategories⟩ : ∃ node c, s.arena.get? v = some node ∧
        node.categories = c :: s.arena.spare v := by
      cases hnode : s.arena.get? v with
      | none => simp [Arena.spare, hnode] at hspare
      | some node =>
        cases hcategories : node.categories with
        | nil => simp [Arena.spare, hnode, hcategories] at hspare
        | cons c rest => exact ⟨node, c, rfl, by simp [Arena.spare, hnode, hcategories]⟩
    have hall := s.idsFor_append done [v]
    rw [need_singleton, ← h.code, ← h.ids] at hall
    have hnodup := hall ▸ hfresh.nodup
    refine ⟨_, h.split hv hdone hnode hcategories hspare hfresh hall
      (splitNode_splitAt (hsame.trans hnode) hcategories hspare rfl
        (List.nodup_append.mp hnodup).2.1 fun hmem => ?_)⟩
    exact hfresh.graph v (hall ▸ List.mem_append_right _ hmem) (.inl hv)

theorem Partway.run {todo : List NodeId} (h : s.Partway done parts after)
    (hnodes : s.graph.nodes = done ++ todo) (hnodup : s.graph.nodes.Nodup)
    (hfresh : s.FreshFor s.graph.nodes) :
    ∃ parts, s.Partway s.graph.nodes parts (todo.foldl splitNode after) := by
  induction todo generalizing done parts after with
  | nil =>
    rw [List.append_nil] at hnodes
    exact ⟨parts, hnodes ▸ h⟩
  | cons v rest ih =>
    have hsplit : s.graph.nodes = (done ++ [v]) ++ rest := by rw [hnodes, List.append_cons]
    have hdone : v ∉ done := by
      intro hmem
      rw [hnodes] at hnodup
      exact (List.nodup_append.mp hnodup).2.2 v hmem v (List.mem_cons_self ..) rfl
    have hpart : s.FreshFor (done ++ [v]) := FreshFor.of_append (hsplit ▸ hfresh)
    obtain ⟨parts, hstep⟩ := h.step (hnodes ▸ by simp) hdone hpart
    exact ih hstep hsplit

/-! ### All nodes split -/

/-- Whether splitting makes a chain of a node. -/
def Splits (s : Splitting) (v : NodeId) : Prop :=
  v ∈ s.graph.nodes ∧ ∃ node, s.arena.get? v = some node ∧ 1 < node.categories.length

theorem splits_iff : s.Splits v ↔ v ∈ s.graph.nodes ∧ s.arena.spare v ≠ [] := by
  refine and_congr_right fun _ => ?_
  cases hnode : s.arena.get? v with
  | none => simp [Arena.spare, hnode]
  | some node =>
    rcases hcategories : node.categories with _ | ⟨first, _ | ⟨second, rest⟩⟩ <;>
      simp [Arena.spare, hnode, hcategories]

theorem spare_eq_nil (hv : v ∈ s.graph.nodes) (h : ¬ s.Splits v) : s.arena.spare v = [] := by
  by_contra hne
  exact h (splits_iff.mpr ⟨hv, hne⟩)

/-- Whether a node stands for one category of another: it is at the same place in the code and of
that category alone. -/
structure StandsFor (part node : ProgramNode) (c : Category) : Prop where
  unit : part.unit = node.unit
  kind : part.kind = node.kind
  line : part.line = node.line
  column : part.column = node.column
  name : part.name? = node.name?
  code : part.code? = node.code?
  file : part.file = node.file
  category : part.sensitivity = some [c]

/-- What splitting makes of a graph and its arena. -/
structure Refines (s : Splitting) (parts : NodeId → List NodeId) (after : Splitting) : Prop where
  /-- The nodes behind the others are new, and each is behind one. -/
  chains : s.graph.Chains parts
  ids : s.graph.nodes.flatMap parts = s.idsFor s.graph.nodes
  nodes : after.graph.nodes = s.graph.nodes ++ s.graph.nodes.flatMap parts
  chain : ∀ v ∈ s.graph.nodes, ∀ node, s.arena.get? v = some node → 1 < node.categories.length →
    List.Forall₂ (fun id c => ∃ part, after.arena.get? id = some part ∧ StandsFor part node c)
      (v :: parts v) node.categories
  head : ∀ v ∈ s.graph.nodes, ∀ node, s.arena.get? v = some node → 1 < node.categories.length →
    after.arena.get? v = some (node.markSensitive (node.categories.take 1))
  unsplit : ∀ v, ¬ s.Splits v → parts v = []
  kept : ∀ id node, ¬ s.Splits id → s.arena.get? id = some node → after.arena.get? id = some node
  others : ∀ id, ¬ s.Splits id → id ∉ s.graph.nodes.flatMap parts →
    after.arena.get? id = s.arena.get? id
  edges : s.graph.Rerooted parts after.graph
  entrance : after.graph.entrance = s.graph.entrance
  returns : after.graph.returns = s.graph.returns
  ways : ∀ kind u w, s.graph.Has u → s.graph.Has w →
    (Relation.TransGen (after.graph.Leads kind) u w ↔ Relation.TransGen (s.graph.Leads kind) u w)

theorem Partway.chain (h : s.Partway s.graph.nodes parts after) (hv : v ∈ s.graph.nodes)
    (hnode : s.arena.get? v = some node) (hmany : 1 < node.categories.length) :
    List.Forall₂ (fun id c => ∃ part, after.arena.get? id = some part ∧ StandsFor part node c)
      (v :: parts v) node.categories ∧
    after.arena.get? v = some (node.markSensitive (node.categories.take 1)) := by
  obtain ⟨-, hhead, htail⟩ := h.shared v hv
  have hspare : s.arena.spare v ≠ [] := (splits_iff.mp ⟨hv, node, hnode, hmany⟩).2
  obtain ⟨c, rest, hcategories⟩ := List.exists_cons_of_length_pos (Nat.zero_lt_of_lt hmany)
  have hrest : s.arena.spare v = rest := by simp [Arena.spare, hnode, hcategories]
  have hfirst := hhead node c hnode (by rw [hcategories, hrest]) hspare
  rw [hcategories]
  refine ⟨.cons ⟨_, hfirst, ⟨rfl, rfl, rfl, rfl, rfl, rfl, rfl, rfl⟩⟩ ?_, hfirst⟩
  refine hrest ▸ htail.imp fun id d hpart => ?_
  obtain ⟨found, hfound, hid⟩ := hpart
  cases hnode.symm.trans hfound
  exact ⟨_, hid, ⟨rfl, rfl, rfl, rfl, rfl, rfl, rfl, rfl⟩⟩

/-- **Splitting makes a chain out of each node with several categories and changes nothing else:
what leaves the nodes, and which nodes have a way to which, stays.** -/
theorem splitAll_refines (s : Splitting) (hwell : s.graph.WellFormed)
    (hfresh : s.FreshFor s.graph.nodes) : ∃ parts, s.Refines parts s.splitAll := by
  obtain ⟨parts, h⟩ := (Partway.start hwell).run (List.nil_append _).symm hwell.nodes hfresh
  have hnodes := congrArg BehaviorGraph.nodes h.shell
  have hentrance := congrArg BehaviorGraph.entrance h.shell
  have hreturns := congrArg BehaviorGraph.returns h.shell
  have hothers (id : NodeId) (hid : ¬ s.Splits id) : id ∉ s.graph.nodes.flatMap parts →
      s.splitAll.arena.get? id = s.arena.get? id :=
    h.others id fun hmem => spare_eq_nil hmem hid
  refine ⟨parts, {
    chains := h.graph.chains
    ids := h.ids
    nodes := hnodes
    chain := fun v hv node hnode hmany => (h.chain hv hnode hmany).1
    head := fun v hv node hnode hmany => (h.chain hv hnode hmany).2
    unsplit := ?_
    kept := ?_
    others := hothers
    edges := h.graph.edges
    entrance := hentrance
    returns := hreturns
    ways := fun kind u w hu hw => h.graph.edges.way_iff h.graph.chains hu hw }⟩
  · intro v hv
    by_cases hmem : v ∈ s.graph.nodes
    · have htail := (h.shared v hmem).2.tail
      rw [spare_eq_nil hmem hv] at htail
      exact List.forall₂_nil_right_iff.mp htail
    · exact h.todo v hmem
  · -- a node of the arena has none of the new ids
    intro id node hid hnode
    refine (hothers id hid fun hmem => ?_).trans hnode
    cases hnode.symm.trans (hfresh.arena id (h.ids ▸ hmem))

/-- A node with three categories that leads to itself, and one with two; each leads to the other. -/
def recurring : Splitting where
  graph :=
    let g : BehaviorGraph := ((({ entrance := 3 } : BehaviorGraph).addNode 3).addNode 1).addNode 2
    let g := ((g.addReturn 2).addEdge 3 1 ["CFG"]).addEdge 1 1 ["DDG: x", "CFG"]
    (g.addEdge 1 2 ["CFG"]).addEdge 2 1 ["DDG: y"]
  arena :=
    let node (id : NodeId) (sensitivity : Option (List Category)) : ProgramNode :=
      { id, unit := 3, kind := "CALL", line := id, file := "index.js", sensitivity }
    ⟨[(1, node 1 (some [.searchFile, .readFile, .deleteFile])),
      (2, node 2 (some [.httpRequest, .executeCommand])), (3, node 3 none)]⟩
  code := { lastId := 3 }

theorem wellFormed_recurring : recurring.graph.WellFormed :=
  (BehaviorGraph.Made.addEdge 2 1 _ (.addEdge 1 2 _ (.addEdge 1 1 _ (.addEdge 3 1 _
    (.addReturn 2 (.addNode 2 (.addNode 1 (.addNode 3 (.new 3))))))))).wellFormed

theorem splitAll_refines_recurring :
    recurring.graph.WellFormed ∧ recurring.FreshFor recurring.graph.nodes ∧
      (∃ parts, recurring.Refines parts recurring.splitAll) ∧
      recurring.splitAll.graph.successors 5 = [1, 2] ∧
      recurring.splitAll.graph.tags? 5 1 = some ["DDG: x", "CFG"] ∧
      recurring.splitAll.graph.tags? 6 1 = some ["DDG: y"] ∧
      recurring.splitAll.graph.successors 1 = [4] := by
  have hfresh : recurring.FreshFor recurring.graph.nodes :=
    .of_counted (by decide) (by decide) (by decide) (by decide)
  exact ⟨wellFormed_recurring, hfresh, splitAll_refines _ wellFormed_recurring hfresh, by decide⟩

end Splitting

end PackageVet

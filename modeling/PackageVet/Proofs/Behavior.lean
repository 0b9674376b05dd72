import Mathlib.Data.List.Nodup
import PackageVet.Proofs.Build.Graph

/-! Behaviour graphs that come from their operations.

Nodes, returned values, edges and tags are each there once in every graph that the operations make
(`Made.wellFormed`). So a node is among the successors of another as often as that one is among its
predecessors, once if the two have tags and never if they have none
(`WellFormed.count_successors`, `WellFormed.count_predecessors`). What moving edges onto a new node
does is said exactly, on the tags (`WellFormed.tags?_moveOutEdges`). -/
namespace PackageVet

theorem mergeTags_of_nodup {known tags : List String} (h : (known ++ tags).Nodup) :
    mergeTags known tags = known ++ tags := by
  induction tags generalizing known with
  | nil => exact (List.append_nil known).symm
  | cons tag rest ih =>
    have hnew : tag ∉ known := fun hmem =>
      (List.nodup_append.mp h).2.2 tag hmem tag (List.mem_cons_self ..) rfl
    rw [List.append_cons] at h ⊢
    show mergeTags (if tag ∈ known then known else known ++ [tag]) rest = _
    rw [if_neg hnew, ih h]

namespace BehaviorGraph
variable {g other : BehaviorGraph} {origin heir a b s t id : NodeId} {tags : List String}

/-! ### One edge from another node -/

theorem tags?_erase (g : BehaviorGraph) (s t a b : NodeId) :
    ({ g with edges := g.edges.erase (s, t) } : BehaviorGraph).tags? a b =
      if a = s ∧ b = t then none else g.tags? a b := by
  have hget := Table.get?_erase g.edges (s, t) (a, b)
  simp only [Prod.mk.injEq] at hget
  exact hget

/-! ### Each thing once -/

/-- What holds of every graph that the operations make. -/
structure WellFormed (g : BehaviorGraph) : Prop where
  nodes : g.nodes.Nodup
  returns : g.returns.Nodup
  edges : g.edges.keys.Nodup
  tags : ∀ s t tags, g.tags? s t = some tags → tags.Nodup

theorem nodup_concat {ids : List NodeId} (h : ids.Nodup) (hid : id ∉ ids) :
    (ids ++ [id]).Nodup := by
  simpa using List.Nodup.concat hid h

theorem WellFormed.addNode (h : g.WellFormed) (id : NodeId) : (g.addNode id).WellFormed := by
  unfold BehaviorGraph.addNode
  split
  · exact h
  · next hid => exact { h with nodes := nodup_concat h.nodes hid }

theorem WellFormed.addReturn (h : g.WellFormed) (id : NodeId) : (g.addReturn id).WellFormed := by
  unfold BehaviorGraph.addReturn
  split
  · exact h
  · next hid => exact { h with returns := nodup_concat h.returns hid }

theorem WellFormed.addEdge (h : g.WellFormed) (s t : NodeId) (tags : List String) :
    (g.addEdge s t tags).WellFormed := by
  refine { h with edges := Table.nodup_insert g.edges _ _ h.edges, tags := ?_ }
  intro a b found hfound
  rw [tags?_addEdge] at hfound
  split at hfound
  · cases hfound
    apply mergeTags_nodup
    cases hknown : g.tags? s t with
    | none => exact List.nodup_nil
    | some known => exact h.tags s t known hknown
  · exact h.tags a b found hfound

theorem WellFormed.ensureEdge (h : g.WellFormed) (s t : NodeId) (tags : List String) :
    (g.ensureEdge s t tags).WellFormed := by
  unfold BehaviorGraph.ensureEdge
  split
  · exact h
  · exact h.addEdge s t tags

theorem WellFormed.moveEdge (h : g.WellFormed) (origin heir target : NodeId) :
    (moveEdge origin heir g target).WellFormed := by
  have herased : WellFormed { g with edges := g.edges.erase (origin, target) } := by
    refine { h with edges := ?_, tags := ?_ }
    · rw [Table.keys_erase]
      exact h.edges.filter _
    · intro a b found hfound
      rw [tags?_erase] at hfound
      split at hfound
      · cases hfound
      · exact h.tags a b found hfound
  exact herased.addEdge heir target _

theorem WellFormed.foldl {α : Type} {step : BehaviorGraph → α → BehaviorGraph}
    (hstep : ∀ g x, WellFormed g → WellFormed (step g x)) (h : g.WellFormed) (xs : List α) :
    (xs.foldl step g).WellFormed :=
  List.foldlRecOn (motive := WellFormed) _ _ h fun g hg x _ => hstep g x hg

theorem WellFormed.moveOutEdges (h : g.WellFormed) (origin heir : NodeId) :
    (g.moveOutEdges origin heir).WellFormed :=
  h.foldl (fun _ target hg => hg.moveEdge origin heir target) _

theorem WellFormed.join (h : g.WellFormed) (other : BehaviorGraph) : (g.join other).WellFormed := by
  unfold BehaviorGraph.join
  split
  · exact h
  · exact (h.foldl (fun _ id hg => hg.addNode id) _).foldl (fun _ _ hg => hg.addEdge _ _ _) _

theorem WellFormed.pullFrom (h : g.WellFormed) (background : BehaviorGraph) (steps : Nat)
    (seen stack : List NodeId) :
    (BehaviorGraph.pullFrom background steps seen stack g).WellFormed := by
  fun_induction BehaviorGraph.pullFrom background steps seen stack g with
  | case1 => exact h
  | case2 => exact h
  | case3 _ _ _ _ _ _ ih => exact ih h
  | case4 _ _ current _ g _ heads ih =>
    exact ih (h.foldl (fun _ head hg => (hg.addNode head).addEdge head current _) heads)

/-- The graphs that the operations make out of a graph that has an entrance only. -/
inductive Made : BehaviorGraph → Prop where
  | new (entrance : NodeId) : Made { entrance }
  | addNode {g : BehaviorGraph} (id : NodeId) : Made g → Made (g.addNode id)
  | addReturn {g : BehaviorGraph} (id : NodeId) : Made g → Made (g.addReturn id)
  | addEdge {g : BehaviorGraph} (s t : NodeId) (tags : List String) :
      Made g → Made (g.addEdge s t tags)
  | ensureEdge {g : BehaviorGraph} (s t : NodeId) (tags : List String) :
      Made g → Made (g.ensureEdge s t tags)
  | moveOutEdges {g : BehaviorGraph} (origin heir : NodeId) :
      Made g → Made (g.moveOutEdges origin heir)
  | join {g other : BehaviorGraph} : Made g → Made other → Made (g.join other)
  | pullPredecessors {g background : BehaviorGraph} (start : NodeId) :
      Made g → Made background → Made (g.pullPredecessors start background)

theorem Made.wellFormed (h : g.Made) : g.WellFormed := by
  induction h with
  | new => exact ⟨List.nodup_nil, List.nodup_nil, List.nodup_nil, fun _ _ _ h => nomatch h⟩
  | addNode id _ ih => exact ih.addNode id
  | addReturn id _ ih => exact ih.addReturn id
  | addEdge s t tags _ ih => exact ih.addEdge s t tags
  | ensureEdge s t tags _ ih => exact ih.ensureEdge s t tags
  | moveOutEdges origin heir _ ih => exact ih.moveOutEdges origin heir
  | join _ _ ih _ => exact ih.join _
  | pullPredecessors start _ _ ih _ => exact ih.pullFrom ..

/-! ### Ways of asking for an edge -/

theorem mem_keys_edges : (s, t) ∈ g.edges.keys ↔ (g.tags? s t).isSome = true :=
  (Table.contains_iff g.edges (s, t)).symm

theorem WellFormed.count_keys (h : g.WellFormed) (s t : NodeId) :
    g.edges.keys.count (s, t) = if (g.tags? s t).isSome then 1 else 0 := by
  split
  · next hsome => exact List.count_eq_one_of_mem h.edges (mem_keys_edges.mpr hsome)
  · next hnone => exact List.count_eq_zero.mpr fun hmem => hnone (mem_keys_edges.mp hmem)

theorem WellFormed.count_successors (h : g.WellFormed) (s t : NodeId) :
    (g.successors s).count t = if (g.tags? s t).isSome then 1 else 0 :=
  (Edges.count_successors g.edges s t).trans (h.count_keys s t)

theorem WellFormed.count_predecessors (h : g.WellFormed) (s t : NodeId) :
    (g.predecessors t).count s = if (g.tags? s t).isSome then 1 else 0 :=
  (Edges.count_predecessors g.edges s t).trans (h.count_keys s t)

/-! ### Edges that start at another node -/

theorem WellFormed.nodup_successors (h : g.WellFormed) (s : NodeId) : (g.successors s).Nodup := by
  rw [List.nodup_iff_count_le_one]
  intro t
  rw [h.count_successors]
  split <;> omega

theorem tags?_moveEdge (hne : heir ≠ origin) (g : BehaviorGraph) (target a b : NodeId) :
    (moveEdge origin heir g target).tags? a b =
      if b = target then
        if a = heir then
          some (mergeTags ((g.tags? heir target).getD []) ((g.tags? origin target).getD []))
        else if a = origin then none else g.tags? a b
      else g.tags? a b := by
  unfold moveEdge
  rw [tags?_addEdge, tags?_erase, tags?_erase]
  by_cases hb : b = target
  · by_cases ha : a = heir
    · simp [hb, ha, hne]
    · simp [hb, ha]
  · simp [hb]

theorem tags?_foldl_moveEdge (hne : heir ≠ origin) {targets : List NodeId} (h : targets.Nodup)
    (a b : NodeId) :
    (targets.foldl (moveEdge origin heir) g).tags? a b =
      if b ∈ targets then
        if a = heir then some (mergeTags ((g.tags? heir b).getD []) ((g.tags? origin b).getD []))
        else if a = origin then none else g.tags? a b
      else g.tags? a b := by
  induction targets generalizing g with
  | nil => simp
  | cons target rest ih =>
    obtain ⟨htarget, hrest⟩ := List.nodup_cons.mp h
    rw [List.foldl_cons, ih hrest]
    by_cases hb : b = target
    · subst hb
      rw [if_neg htarget, if_pos (List.mem_cons_self ..), tags?_moveEdge hne, if_pos rfl]
    · simp only [tags?_moveEdge hne, hb, if_false, List.mem_cons, false_or]

/-- Moving the edges of a node onto one that has none leaves the first without edges and gives the
second all that it had. -/
theorem WellFormed.tags?_moveOutEdges (h : g.WellFormed) (hne : heir ≠ origin)
    (hheir : ∀ b, g.tags? heir b = none) (a b : NodeId) :
    (g.moveOutEdges origin heir).tags? a b =
      if a = heir then g.tags? origin b else if a = origin then none else g.tags? a b := by
  have hmem : b ∈ g.successors origin ↔ (g.tags? origin b).isSome = true :=
    Edges.mem_successors.trans mem_keys_edges
  unfold BehaviorGraph.moveOutEdges
  rw [tags?_foldl_moveEdge hne (h.nodup_successors origin), hheir]
  cases htags : g.tags? origin b with
  | none =>
    rw [if_neg (by simp [hmem, htags])]
    by_cases ha : a = heir
    · simp [ha, hheir]
    · by_cases ho : a = origin
      · simp [ho, htags]
      · simp [ha, ho]
  | some tags =>
    have hsame : mergeTags [] tags = tags := mergeTags_of_nodup (h.tags origin b tags htags)
    rw [if_pos (by simp [hmem, htags])]
    simp [hsame]

end BehaviorGraph

end PackageVet

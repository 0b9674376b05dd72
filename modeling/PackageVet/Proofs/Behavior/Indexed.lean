import PackageVet.Behavior.Indexed
import PackageVet.Proofs.Behavior.Join

/-! The indexes of behaviour graphs.

A graph with indexes and a plain one that come from the same operations (`IndexedGraph.Made`) are
asked in different ways: one reads its set of nodes and its indexes, the other goes through its
nodes and edges. They give the same answers (`Indexed`). While edges are moved they do not: the node
that the edges started at is out of the index of successors at once, but its edges go one by one
(`IndexedBut`). Each edge that is moved takes one off what is missing (`IndexedBut.moveEdge`), and at
the end nothing is.

So in every graph that the operations make, whatever order edges are gone through in, nodes, edges
and indexes agree (`consistent_of_made`). -/
namespace PackageVet

namespace IndexedGraph
variable {m other : IndexedGraph} {g : BehaviorGraph} {origin heir target source s t id : NodeId}
  {pending order : List NodeId} {tags : List String}

/-! ### One edge -/

theorem hasEdge_iff : m.hasEdge s t = true ↔ (s, t) ∈ m.edges.keys := Table.contains_iff ..

theorem table_addEdge (m : IndexedGraph) (s t : NodeId) (tags : List String) :
    (m.addEdge s t tags).table = m.table.addEdge s t tags := by
  unfold addEdge link
  split
  · rfl
  · next hnew =>
    have hnone : m.table.tags? s t = none := Option.not_isSome_iff_eq_none.mp hnew
    have hedges : (m.edges.insert (s, t) []).insert (s, t) (mergeTags [] tags) =
        m.edges.insert (s, t) (mergeTags [] tags) := Table.insert_insert ..
    unfold BehaviorGraph.addEdge
    rw [hnone]
    simp only [tags?, Table.get?_insert_self, Option.getD_some, Option.getD_none, table]
    rw [hedges]

theorem successorsOf_addEdge (m : IndexedGraph) (s t : NodeId) (tags : List String) (a : NodeId) :
    (m.addEdge s t tags).successorsOf a =
      if a = s ∧ (s, t) ∉ m.edges.keys then m.successorsOf a ++ [t] else m.successorsOf a := by
  unfold addEdge link
  by_cases hknown : m.hasEdge s t = true
  · have hkey : (s, t) ∈ m.edges.keys := hasEdge_iff.mp hknown
    simp [hknown, hkey, successorsOf]
  · have hkey : (s, t) ∉ m.edges.keys := mt hasEdge_iff.mpr hknown
    simp [hknown, hkey, successorsOf, Index.idsAt_extend]

theorem predecessorsOf_addEdge (m : IndexedGraph) (s t : NodeId) (tags : List String)
    (b : NodeId) :
    (m.addEdge s t tags).predecessorsOf b =
      if b = t ∧ (s, t) ∉ m.edges.keys then m.predecessorsOf b ++ [s] else m.predecessorsOf b := by
  unfold addEdge link
  by_cases hknown : m.hasEdge s t = true
  · have hkey : (s, t) ∈ m.edges.keys := hasEdge_iff.mp hknown
    simp [hknown, hkey, predecessorsOf]
  · have hkey : (s, t) ∉ m.edges.keys := mt hasEdge_iff.mpr hknown
    simp [hknown, hkey, predecessorsOf, Index.idsAt_extend]

theorem members_addEdge (m : IndexedGraph) (s t : NodeId) (tags : List String) :
    (m.addEdge s t tags).members = m.members ∧ (m.addEdge s t tags).nodes = m.nodes := by
  unfold addEdge link
  split <;> exact ⟨rfl, rfl⟩

theorem keys_addEdge (m : IndexedGraph) (s t : NodeId) (tags : List String) :
    (m.addEdge s t tags).successors = m.successors ∨
      (m.addEdge s t tags).successors = m.successors.extend s t := by
  unfold addEdge link
  split
  · exact .inl rfl
  · exact .inr rfl

/-! ### Indexes that lack some edges -/

/-- Whether every key of an index is there once and has something at it. -/
structure Filled (index : Index) : Prop where
  keys : index.keys.Nodup
  used : ∀ key ∈ index.keys, index.idsAt key ≠ []

theorem Filled.extend {index : Index} (h : Filled index) (key id : NodeId) :
    Filled (index.extend key id) where
  keys := Table.nodup_insert index key _ h.keys
  used other hother := by
    rw [Index.idsAt_extend]
    split
    · exact List.append_ne_nil_of_right_ne_nil _ (List.cons_ne_nil id [])
    · next hne =>
      refine h.used other ?_
      rw [Index.extend, Table.keys_insert] at hother
      split at hother
      · exact hother
      · simpa [hne] using hother

theorem Filled.erase {index : Index} (h : Filled index) (key : NodeId) :
    Filled (index.erase key) where
  keys := by
    rw [Table.keys_erase]
    exact h.keys.filter _
  used other hother := by
    rw [Table.keys_erase, List.mem_filter] at hother
    rw [Index.idsAt_erase, if_neg (by simpa using hother.2)]
    exact h.used other hother.1

/-- Whether set and indexes say what nodes and edges say, but for edges of one node that are not in
the index of successors. -/
structure IndexedBut (origin : NodeId) (pending : List NodeId) (m : IndexedGraph) : Prop where
  members : ∀ id, id ∈ m.members ↔ id ∈ m.nodes
  filled : Filled m.successors
  successors : ∀ id,
    m.table.successors id = (if id = origin then pending else []) ++ m.successorsOf id
  predecessors : ∀ id, m.table.predecessors id = m.predecessorsOf id

/-- Whether set and indexes say what nodes and edges say. -/
def Indexed (m : IndexedGraph) : Prop := ∀ origin, IndexedBut origin [] m

theorem IndexedBut.indexed (h : IndexedBut origin [] m) : m.Indexed := by
  refine fun other => ⟨h.members, h.filled, fun id => ?_, h.predecessors⟩
  have hsame := h.successors id
  simp only [ite_self, List.nil_append] at hsame ⊢
  exact hsame

theorem Indexed.successors (h : m.Indexed) (id : NodeId) :
    m.table.successors id = m.successorsOf id := by
  have hsame := (h id).successors id
  rwa [if_pos rfl, List.nil_append] at hsame

theorem Indexed.predecessors (h : m.Indexed) (id : NodeId) :
    m.table.predecessors id = m.predecessorsOf id := (h id).predecessors id

theorem Indexed.mem_members (h : m.Indexed) : id ∈ m.members ↔ id ∈ m.nodes := (h id).members id

theorem IndexedBut.addEdge (h : IndexedBut origin pending m) (s t : NodeId) (tags : List String) :
    IndexedBut origin pending (m.addEdge s t tags) where
  members id := by
    obtain ⟨hmembers, hnodes⟩ := m.members_addEdge s t tags
    rw [hmembers, hnodes]
    exact h.members id
  filled := by
    rcases m.keys_addEdge s t tags with hkeys | hkeys
    · exact hkeys ▸ h.filled
    · exact hkeys ▸ h.filled.extend s t
  successors id := by
    have hbefore := h.successors id
    rw [table_addEdge, successorsOf_addEdge]
    refine (Edges.successors_insert m.edges s t _ id).trans ?_
    split
    · rw [← List.append_assoc, ← hbefore]
      rfl
    · exact hbefore
  predecessors id := by
    have hbefore := h.predecessors id
    rw [table_addEdge, predecessorsOf_addEdge]
    refine (Edges.predecessors_insert m.edges s t _ id).trans ?_
    split
    · rw [← hbefore]
      rfl
    · exact hbefore

theorem Indexed.addEdge (h : m.Indexed) (s t : NodeId) (tags : List String) :
    (m.addEdge s t tags).Indexed := fun origin => (h origin).addEdge s t tags

theorem Indexed.ensureEdge (h : m.Indexed) (s t : NodeId) (tags : List String) :
    (m.ensureEdge s t tags).Indexed := by
  unfold IndexedGraph.ensureEdge
  split
  · exact h
  · exact h.addEdge s t tags

theorem Indexed.copyEdge (h : m.Indexed) (other : IndexedGraph) (s t : NodeId) :
    (copyEdge other m s t).Indexed := by
  unfold IndexedGraph.copyEdge
  split
  · exact h.addEdge s t _
  · exact h

theorem Indexed.addNode (h : m.Indexed) (id : NodeId) : (m.addNode id).Indexed := by
  unfold IndexedGraph.addNode
  split
  · exact h
  · exact fun origin =>
      { h origin with members := fun other => by simp [h.mem_members, or_comm] }

theorem Indexed.addReturn (h : m.Indexed) (id : NodeId) : (m.addReturn id).Indexed := by
  unfold IndexedGraph.addReturn
  split
  · exact h
  · exact fun origin => { h origin with }

theorem Indexed.foldl {α : Type} {step : IndexedGraph → α → IndexedGraph}
    (hstep : ∀ m x, Indexed m → Indexed (step m x)) (h : m.Indexed) (xs : List α) :
    (xs.foldl step m).Indexed :=
  List.foldlRecOn (motive := Indexed) _ _ h fun m hm x _ => hstep m x hm

/-! ### Edges that are moved -/

/-- The edge that is moved is the first one that the index lacks. -/
theorem IndexedBut.moveEdge (h : IndexedBut origin (target :: pending) m)
    (hwell : m.table.WellFormed) (heir : NodeId) :
    IndexedBut origin pending (moveEdge origin heir m target) := by
  have hnodup := hwell.nodup_successors origin
  rw [h.successors, if_pos rfl, List.cons_append] at hnodup
  have herased : IndexedBut origin pending
      { m with
        edges := m.edges.erase (origin, target)
        predecessors := m.predecessors.drop target origin } := by
    refine ⟨h.members, h.filled, fun id => ?_, fun id => ?_⟩
    · have hbefore : m.edges.successors id = _ := h.successors id
      refine (Edges.successors_erase m.edges origin target id).trans ?_
      split
      · next hid =>
        rw [hbefore, if_pos hid, hid]
        exact Index.filter_ne_head hnodup
      · next hid =>
        rw [hbefore, if_neg hid]
        rfl
    · have hbefore : m.edges.predecessors id = _ := h.predecessors id
      refine (Edges.predecessors_erase m.edges origin target id).trans ?_
      rw [hbefore]
      exact (Index.idsAt_drop m.predecessors target origin id).symm
  exact herased.addEdge heir target _

theorem table_moveEdge (m : IndexedGraph) (origin heir target : NodeId) :
    (moveEdge origin heir m target).table = BehaviorGraph.moveEdge origin heir m.table target :=
  table_addEdge _ heir target _

theorem IndexedBut.foldl_moveEdge (h : IndexedBut origin pending m) (hwell : m.table.WellFormed)
    (heir : NodeId) : (pending.foldl (IndexedGraph.moveEdge origin heir) m).Indexed := by
  induction pending generalizing m with
  | nil => exact h.indexed
  | cons target rest ih =>
    refine ih (h.moveEdge hwell heir) ?_
    rw [table_moveEdge]
    exact hwell.moveEdge origin heir target

theorem Indexed.moveOutEdges (h : m.Indexed) (hwell : m.table.WellFormed) (origin heir : NodeId) :
    (m.moveOutEdges origin heir).Indexed := by
  have hremoved : IndexedBut origin (m.successorsOf origin)
      { m with successors := m.successors.erase origin } := by
    refine { h origin with filled := (h origin).filled.erase origin, successors := fun id => ?_ }
    refine (h.successors id).trans ?_
    unfold successorsOf
    rw [Index.idsAt_erase]
    by_cases hid : id = origin
    · simp [hid]
    · simp [hid]
  exact hremoved.foldl_moveEdge hwell heir

theorem table_moveOutEdges (h : m.Indexed) (origin heir : NodeId) :
    (m.moveOutEdges origin heir).table = m.table.moveOutEdges origin heir := by
  unfold moveOutEdges BehaviorGraph.moveOutEdges
  rw [h.successors]
  exact (List.foldl_hom table fun m target => (m.table_moveEdge origin heir target).symm).symm

/-! ### The other operations without indexes -/

theorem table_addNode (h : m.Indexed) (id : NodeId) :
    (m.addNode id).table = m.table.addNode id := by
  have hmem : id ∈ m.members ↔ id ∈ m.table.nodes := h.mem_members
  unfold addNode BehaviorGraph.addNode
  by_cases hid : id ∈ m.members
  · rw [if_pos hid, if_pos (hmem.mp hid)]
  · rw [if_neg hid, if_neg (mt hmem.mpr hid)]
    rfl

theorem table_addReturn (m : IndexedGraph) (id : NodeId) :
    (m.addReturn id).table = m.table.addReturn id := by
  unfold addReturn
  split
  · next hid => exact (if_pos hid).symm
  · next hid => exact (if_neg hid).symm

theorem table_ensureEdge (m : IndexedGraph) (s t : NodeId) (tags : List String) :
    (m.ensureEdge s t tags).table = m.table.ensureEdge s t tags := by
  have hsame : m.table.hasEdge s t = m.hasEdge s t := rfl
  unfold ensureEdge BehaviorGraph.ensureEdge
  rw [hsame]
  split
  · rfl
  · exact m.table_addEdge s t tags

theorem table_copyEdge (h : ∃ tags, other.table.tags? s t = some tags) (m : IndexedGraph) :
    (copyEdge other m s t).table = m.table.addEdge s t ((other.table.tags? s t).getD []) := by
  obtain ⟨tags, htags⟩ := h
  have hcopied : other.tags? s t = some tags := htags
  rw [copyEdge, hcopied, htags]
  exact m.table_addEdge s t tags

theorem table_offer (hother : other.Indexed) (m : IndexedGraph) (source : NodeId) :
    (other.offer m source).table = other.table.offer m.table source := by
  have hlinked : ∀ target ∈ other.successorsOf source,
      ∃ tags, other.table.tags? source target = some tags := fun target htarget =>
    BehaviorGraph.mem_successors_iff.mp (hother.successors source ▸ htarget)
  unfold offer BehaviorGraph.offer
  rw [hother.successors source]
  generalize other.successorsOf source = targets at hlinked ⊢
  induction targets generalizing m with
  | nil => rfl
  | cons target rest ih =>
    rw [List.foldl_cons, List.foldl_cons, ih _ fun t ht => hlinked t (List.mem_cons_of_mem _ ht),
      table_copyEdge (hlinked target (List.mem_cons_self ..))]

theorem table_foldl_addNode (h : m.Indexed) (ids : List NodeId) :
    (ids.foldl addNode m).table = ids.foldl BehaviorGraph.addNode m.table := by
  induction ids generalizing m with
  | nil => rfl
  | cons id rest ih => rw [List.foldl_cons, ih (h.addNode id), table_addNode h, List.foldl_cons]

theorem Indexed.joinAlong (h : m.Indexed) (other : IndexedGraph) (order : List NodeId) :
    (m.joinAlong other order).Indexed := by
  unfold IndexedGraph.joinAlong
  split
  · exact h
  · refine (h.foldl (fun _ id hm => hm.addNode id) _).foldl (fun m source hm => ?_) _
    exact hm.foldl (fun _ target hm => hm.copyEdge other source target) _

theorem table_joinAlong (h : m.Indexed) (hother : other.Indexed) (order : List NodeId) :
    (m.joinAlong other order).table = m.table.joinAlong other.table order := by
  have hcontains : m.contains other.entrance = m.table.contains other.table.entrance :=
    decide_eq_decide.mpr h.mem_members
  unfold joinAlong BehaviorGraph.joinAlong
  rw [hcontains]
  split
  · rfl
  · rw [← table_foldl_addNode h]
    exact (List.foldl_hom table fun m source => (table_offer hother m source).symm).symm

theorem Indexed.foldl_pullHead (h : m.Indexed) (background : IndexedGraph) (current : NodeId)
    (heads : List NodeId) : (heads.foldl (pullHead background current) m).Indexed :=
  h.foldl (fun _ head hm => (hm.addNode head).copyEdge background head current) heads

theorem Indexed.pullFrom (h : m.Indexed) (background : IndexedGraph) (steps : Nat)
    (seen stack : List NodeId) : (pullFrom background steps seen stack m).Indexed := by
  fun_induction IndexedGraph.pullFrom background steps seen stack m with
  | case1 => exact h
  | case2 => exact h
  | case3 _ _ _ _ _ _ ih => exact ih h
  | case4 _ _ current _ m _ heads ih => exact ih (h.foldl_pullHead background current heads)

theorem table_pullHead {background : IndexedGraph} {current head : NodeId} (h : m.Indexed)
    (hlinked : ∃ tags, background.table.tags? head current = some tags) :
    (pullHead background current m head).table =
      BehaviorGraph.pullHead background.table current m.table head := by
  rw [pullHead, table_copyEdge hlinked, table_addNode h]
  rfl

theorem table_foldl_pullHead {background : IndexedGraph} {current : NodeId} {heads : List NodeId}
    (h : m.Indexed)
    (hlinked : ∀ head ∈ heads, ∃ tags, background.table.tags? head current = some tags) :
    (heads.foldl (pullHead background current) m).table =
      heads.foldl (BehaviorGraph.pullHead background.table current) m.table := by
  induction heads generalizing m with
  | nil => rfl
  | cons head rest ih =>
    have hpulled : (pullHead background current m head).Indexed :=
      (h.addNode head).copyEdge background head current
    rw [List.foldl_cons, List.foldl_cons,
      ih hpulled fun t ht => hlinked t (List.mem_cons_of_mem _ ht),
      table_pullHead h (hlinked head (List.mem_cons_self ..))]

theorem table_pullFrom {background : IndexedGraph} (hback : background.Indexed) (h : m.Indexed)
    (steps : Nat) (seen stack : List NodeId) :
    (pullFrom background steps seen stack m).table =
      BehaviorGraph.pullFrom background.table steps seen stack m.table := by
  induction steps generalizing seen stack m with
  | zero => rfl
  | succ steps ih =>
    cases stack with
    | nil => rfl
    | cons current stack =>
      rw [pullFrom, BehaviorGraph.pullFrom]
      split
      · exact ih h seen stack
      · have hlinked : ∀ head ∈ background.predecessorsOf current,
            ∃ tags, background.table.tags? head current = some tags := by
          intro head hhead
          rw [← hback.predecessors, BehaviorGraph.mem_predecessors] at hhead
          exact Option.isSome_iff_exists.mp hhead
        dsimp only
        rw [ih (h.foldl_pullHead background current _), table_foldl_pullHead h hlinked,
          hback.predecessors]

/-! ### Graphs that come from the same operations -/

/-- A graph with indexes and a plain one that come from the same operations. The keys of an index
have no order, so the edges of a graph that is joined are gone through in any. -/
inductive Made : IndexedGraph → BehaviorGraph → Prop where
  | new (entrance : NodeId) : Made { entrance } { entrance }
  | addNode {m : IndexedGraph} {g : BehaviorGraph} (id : NodeId) :
      Made m g → Made (m.addNode id) (g.addNode id)
  | addReturn {m : IndexedGraph} {g : BehaviorGraph} (id : NodeId) :
      Made m g → Made (m.addReturn id) (g.addReturn id)
  | addEdge {m : IndexedGraph} {g : BehaviorGraph} (s t : NodeId) (tags : List String) :
      Made m g → Made (m.addEdge s t tags) (g.addEdge s t tags)
  | ensureEdge {m : IndexedGraph} {g : BehaviorGraph} (s t : NodeId) (tags : List String) :
      Made m g → Made (m.ensureEdge s t tags) (g.ensureEdge s t tags)
  | moveOutEdges {m : IndexedGraph} {g : BehaviorGraph} (origin heir : NodeId) :
      Made m g → Made (m.moveOutEdges origin heir) (g.moveOutEdges origin heir)
  | joinAlong {m other : IndexedGraph} {g other' : BehaviorGraph} {order : List NodeId} :
      Made m g → Made other other' → order.Perm other.successors.keys →
      Made (m.joinAlong other order) (g.joinAlong other' order)
  | pullPredecessors {m background : IndexedGraph} {g background' : BehaviorGraph}
      (start : NodeId) : Made m g → Made background background' →
      Made (m.pullPredecessors start background) (g.pullPredecessors start background')

/-- Whether a graph without indexes is the one with them, and has everything once. -/
structure Keeps (m : IndexedGraph) (g : BehaviorGraph) : Prop where
  indexed : m.Indexed
  table : m.table = g
  wellFormed : g.WellFormed

theorem Keeps.well (h : m.Keeps g) : m.table.WellFormed := h.table ▸ h.wellFormed

theorem Made.keeps (h : Made m g) : m.Keeps g := by
  induction h with
  | new entrance =>
    refine ⟨fun _ => ⟨fun _ => Iff.rfl, ⟨List.nodup_nil, nofun⟩, fun _ => ?_, fun _ => rfl⟩, rfl,
      BehaviorGraph.Made.wellFormed (.new entrance)⟩
    rw [ite_self]
    rfl
  | addNode id _ ih =>
    exact ⟨ih.indexed.addNode id, by rw [table_addNode ih.indexed, ih.table],
      ih.wellFormed.addNode id⟩
  | addReturn id _ ih =>
    exact ⟨ih.indexed.addReturn id, by rw [table_addReturn, ih.table], ih.wellFormed.addReturn id⟩
  | addEdge s t tags _ ih =>
    exact ⟨ih.indexed.addEdge s t tags, by rw [table_addEdge, ih.table],
      ih.wellFormed.addEdge s t tags⟩
  | ensureEdge s t tags _ ih =>
    exact ⟨ih.indexed.ensureEdge s t tags, by rw [table_ensureEdge, ih.table],
      ih.wellFormed.ensureEdge s t tags⟩
  | moveOutEdges origin heir _ ih =>
    exact ⟨ih.indexed.moveOutEdges ih.well origin heir,
      by rw [table_moveOutEdges ih.indexed, ih.table], ih.wellFormed.moveOutEdges origin heir⟩
  | @joinAlong m other g other' order _ _ _ ih ihother =>
    exact ⟨ih.indexed.joinAlong other order,
      by rw [table_joinAlong ih.indexed ihother.indexed, ih.table, ihother.table],
      ih.wellFormed.joinAlong other' order⟩
  | @pullPredecessors m background g background' start _ _ ih ihback =>
    refine ⟨ih.indexed.pullFrom background _ _ _, ?_, ih.wellFormed.pullFrom ..⟩
    rw [IndexedGraph.pullPredecessors, table_pullFrom ihback.indexed ih.indexed, ih.table,
      ← ihback.table]
    rfl

/-- Joining plain graphs goes through the keys of the index in one of their orders. -/
theorem Made.join {other' : BehaviorGraph} (h : Made m g) (hother : Made other other') :
    Made (m.joinAlong other other'.sources) (g.join other') := by
  have hkeeps := hother.keeps
  have hsources := hkeeps.wellFormed.enumerates_sources
  rw [BehaviorGraph.join_eq_joinAlong hkeeps.wellFormed]
  refine .joinAlong h hother ?_
  have hfilled := (hkeeps.indexed other.entrance).filled
  refine (List.perm_ext_iff_of_nodup hsources.nodup hfilled.keys).mpr fun id => ?_
  rw [hsources.mem, ← hkeeps.table, hkeeps.indexed.successors]
  constructor
  · intro hne
    by_contra hkey
    refine hne ?_
    have hnone : other.successors.get? id = none :=
      Option.not_isSome_iff_eq_none.mp (mt (Table.contains_iff ..).mp hkey)
    rw [successorsOf, Index.idsAt, hnone]
    rfl
  · exact hfilled.used id

/-! ### What the indexes say -/

/-- Whether a graph has everything once and gives the same answer in whatever way it is asked. -/
structure Consistent (m : IndexedGraph) : Prop where
  nodes : m.nodes.Nodup
  members : ∀ id, m.contains id = true ↔ id ∈ m.nodes
  returns : m.returns.Nodup
  successor : ∀ s t, (m.successorsOf s).count t = 1 ↔ (m.tags? s t).isSome = true
  predecessor : ∀ s t, (m.predecessorsOf t).count s = 1 ↔ (m.tags? s t).isSome = true
  unlinked : ∀ s t, m.tags? s t = none → t ∉ m.successorsOf s ∧ s ∉ m.predecessorsOf t
  tags : ∀ s t tags, m.tags? s t = some tags → tags.Nodup

/-- Whether a graph with indexes answers as a plain one does. -/
structure Answers (m : IndexedGraph) (g : BehaviorGraph) : Prop where
  entrance : m.entrance = g.entrance
  returns : m.returns = g.returns
  nodes : m.nodes = g.nodes
  contains : ∀ id, m.contains id = g.contains id
  tags : ∀ s t, m.tags? s t = g.tags? s t
  successors : ∀ id, m.successorsOf id = g.successors id
  predecessors : ∀ id, m.predecessorsOf id = g.predecessors id
  size : m.edgeCount = g.edgeCount

theorem Keeps.consistent (h : m.Keeps g) : m.Consistent := by
  have hwell := h.well
  have hsuccessors (s t : NodeId) :
      (m.successorsOf s).count t = if (m.tags? s t).isSome then 1 else 0 := by
    rw [← h.indexed.successors]
    exact hwell.count_successors s t
  have hpredecessors (s t : NodeId) :
      (m.predecessorsOf t).count s = if (m.tags? s t).isSome then 1 else 0 := by
    rw [← h.indexed.predecessors]
    exact hwell.count_predecessors s t
  refine ⟨hwell.nodes, fun id => ?_, hwell.returns, fun s t => ?_, fun s t => ?_,
    fun s t hnone => ?_, hwell.tags⟩
  · simpa [contains] using h.indexed.mem_members
  · rw [hsuccessors]
    cases m.tags? s t <;> simp
  · rw [hpredecessors]
    cases m.tags? s t <;> simp
  · have hcounts := And.intro (hsuccessors s t) (hpredecessors s t)
    simpa [hnone, List.count_eq_zero] using hcounts

theorem Keeps.answers (h : m.Keeps g) : m.Answers g := by
  obtain ⟨hindexed, rfl, -⟩ := h
  exact ⟨rfl, rfl, rfl, fun _ => decide_eq_decide.mpr hindexed.mem_members, fun _ _ => rfl,
    fun id => (hindexed.successors id).symm, fun id => (hindexed.predecessors id).symm, rfl⟩

/-- **In every graph that the operations make, nodes, edges and indexes agree, and it answers as
the plain graph does that comes from the same operations.** Joining plain graphs is one of them. -/
theorem consistent_of_made (h : Made m g) :
    m.Consistent ∧ m.Answers g ∧
    ∀ other other', Made other other' →
      Made (m.joinAlong other other'.sources) (g.join other') :=
  ⟨h.keeps.consistent, h.keeps.answers, fun _ _ hother => h.join hother⟩

/-- Two nodes that lead to each other. -/
def roundabout : IndexedGraph :=
  ((({ entrance := 7 } : IndexedGraph).addNode 7).addEdge 7 8 ["CFG"]).addEdge 8 7 ["DDG: x"]

/-- Edges are moved onto a node that has one of them already, then onto the node itself. -/
def rewired : IndexedGraph :=
  let m := (({ entrance := 1 } : IndexedGraph).addNode 1).addReturn 1
  let m := ((m.addEdge 1 1 ["CFG"]).addEdge 1 2 ["CFG", "DDG: x", "CFG"]).addEdge 3 2 ["CFG"]
  (((m.moveOutEdges 1 3).moveOutEdges 3 3).joinAlong roundabout [8, 7]).pullPredecessors 8 roundabout

theorem consistent_of_made_rewired :
    (∃ g, Made rewired g) ∧ rewired.Consistent ∧ rewired.tags? 3 2 = some ["CFG", "DDG: x"] ∧
      rewired.successorsOf 3 = [2, 1] ∧ rewired.successorsOf 1 = [] ∧
      rewired.predecessorsOf 1 = [3] := by
  have hroundabout : Made roundabout _ :=
    .addEdge 8 7 ["DDG: x"] (.addEdge 7 8 ["CFG"] (.addNode 7 (.new 7)))
  have hlinked := Made.addEdge 3 2 ["CFG"] (.addEdge 1 2 ["CFG", "DDG: x", "CFG"]
    (.addEdge 1 1 ["CFG"] (.addReturn 1 (.addNode 1 (.new 1)))))
  have hmade : Made rewired _ :=
    .pullPredecessors 8 (.joinAlong (.moveOutEdges 3 3 (.moveOutEdges 1 3 hlinked)) hroundabout
      (by decide)) hroundabout
  exact ⟨⟨_, hmade⟩, (consistent_of_made hmade).1, by decide⟩

end IndexedGraph

end PackageVet

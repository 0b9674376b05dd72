import PackageVet.CodeUnit.Indexed
import PackageVet.Proofs.CodeUnit

/-! The indexes of units.

Edges that are added go into both indexes, each once (`Indexed.addEdge`). When the edges into a node
are taken out, the node is out of the index of predecessors at once and its edges follow one by one
(`IndexedBut`); each of them takes one off what is missing (`IndexedBut.dropEdge`). So after an
export was read the indexes say what the edges say, and the edges are those of the plain unit
(`ofDot_agrees`). -/
namespace PackageVet.IndexedUnit
variable {m m' : IndexedUnit} {graph : Dot.Graph} {code : CodeGraph} {arena : Arena}
  {source target : NodeId} {pending targets : List NodeId}

/-! ### What the operations leave alone -/

/-- Whether a unit differs from another in its edges and indexes only. -/
def OnlyEdges (m m' : IndexedUnit) : Prop := m'.toCodeUnit = { m.toCodeUnit with edges := m'.edges }

theorem OnlyEdges.refl (m : IndexedUnit) : OnlyEdges m m := rfl

theorem OnlyEdges.trans {m'' : IndexedUnit} (h : OnlyEdges m m') (h' : OnlyEdges m' m'') :
    OnlyEdges m m'' := by
  unfold OnlyEdges at *
  rw [h', h]

theorem OnlyEdges.foldl {α : Type} {step : IndexedUnit → α → IndexedUnit}
    (hstep : ∀ m x, OnlyEdges m (step m x)) (xs : List α) (m : IndexedUnit) :
    OnlyEdges m (xs.foldl step m) :=
  List.foldlRecOn (motive := OnlyEdges m) _ _ (.refl m) fun m' h x _ => h.trans (hstep m' x)

theorem onlyEdges_addDotEdge (m : IndexedUnit) (edge : Dot.Edge) :
    OnlyEdges m (m.addDotEdge edge) := by
  unfold addDotEdge
  split
  · rfl
  · exact .refl m

theorem onlyEdges_dropInEdges (m : IndexedUnit) (target : NodeId) :
    OnlyEdges m (m.dropInEdges target) := by
  have herase : OnlyEdges m { m with predecessors := m.predecessors.erase target } := rfl
  refine herase.trans (OnlyEdges.foldl (fun m source => ?_) (m.predecessorsOf target) _)
  rfl

/-! ### Edges that are added -/

/-- Whether the indexes say what the edges say. -/
structure Indexed (m : IndexedUnit) : Prop where
  nodup : m.edges.keys.Nodup
  successors : ∀ id, m.edges.successors id = m.successorsOf id
  predecessors : ∀ id, m.edges.predecessors id = m.predecessorsOf id

theorem Indexed.mem_successorsOf (h : m.Indexed) :
    target ∈ m.successorsOf source ↔ (source, target) ∈ m.edges.keys := by
  rw [← h.successors, Edges.mem_successors]

theorem Indexed.mem_predecessorsOf (h : m.Indexed) :
    source ∈ m.predecessorsOf target ↔ (source, target) ∈ m.edges.keys := by
  rw [← h.predecessors, Edges.mem_predecessors]

theorem Indexed.addEdge (h : m.Indexed) (source target : NodeId) (tags : List String) :
    (m.addEdge source target tags).Indexed where
  nodup := Table.nodup_insert _ _ _ h.nodup
  successors id := by
    have hknown : target ∈ m.successors.idsAt source ↔ (source, target) ∈ m.edges.keys :=
      h.mem_successorsOf
    refine (Edges.successors_insert m.edges source target _ id).trans ?_
    rw [h.successors]
    refine Eq.trans ?_ (Index.idsAt_ensure m.successors source target id).symm
    exact if_congr (and_congr_right fun _ => not_congr hknown.symm) rfl rfl
  predecessors id := by
    have hknown : source ∈ m.predecessors.idsAt target ↔ (source, target) ∈ m.edges.keys :=
      h.mem_predecessorsOf
    refine (Edges.predecessors_insert m.edges source target _ id).trans ?_
    rw [h.predecessors]
    refine Eq.trans ?_ (Index.idsAt_ensure m.predecessors target source id).symm
    exact if_congr (and_congr_right fun _ => not_congr hknown.symm) rfl rfl

theorem Indexed.addDotEdge (h : m.Indexed) (edge : Dot.Edge) : (m.addDotEdge edge).Indexed := by
  unfold IndexedUnit.addDotEdge
  split
  · exact h.addEdge ..
  · exact h

theorem edges_foldl_addDotEdge (hempty : m.edges = {}) :
    (graph.edges.foldl addDotEdge m).edges = CodeUnit.edgesOfDot graph := by
  unfold CodeUnit.edgesOfDot
  rw [← hempty]
  refine (List.foldl_hom (fun m : IndexedUnit => m.edges) fun m edge => ?_).symm
  unfold addDotEdge
  cases nodeId? edge.source with
  | none => rfl
  | some source =>
    cases nodeId? edge.target with
    | none => rfl
    | some target => rfl

/-! ### Edges that are taken out -/

/-- Whether the indexes say what the edges say, but for edges into one node that are not in the
index of predecessors. -/
structure IndexedBut (target : NodeId) (pending : List NodeId) (m : IndexedUnit) : Prop where
  nodup : m.edges.keys.Nodup
  successors : ∀ id, m.edges.successors id = m.successorsOf id
  predecessors : ∀ id,
    m.edges.predecessors id = (if id = target then pending else []) ++ m.predecessorsOf id

theorem IndexedBut.indexed (h : IndexedBut target [] m) : m.Indexed where
  nodup := h.nodup
  successors := h.successors
  predecessors id := by rw [h.predecessors, ite_self, List.nil_append]

/-- A node that is taken out of the index of predecessors leaves all its edges to be taken out. -/
theorem Indexed.erase (h : m.Indexed) (target : NodeId) :
    IndexedBut target (m.predecessorsOf target)
      { m with predecessors := m.predecessors.erase target } where
  nodup := h.nodup
  successors := h.successors
  predecessors id := by
    have herase : IndexedUnit.predecessorsOf { m with predecessors := m.predecessors.erase target }
        id = _ := Index.idsAt_erase m.predecessors target id
    rw [herase, h.predecessors]
    split
    · next hid => rw [hid, List.append_nil]
    · rfl

/-- The edge that is taken out is the first one that the index lacks. -/
theorem IndexedBut.dropEdge (h : IndexedBut target (source :: pending) m) :
    IndexedBut target pending (dropEdge target m source) where
  nodup := by
    show (m.edges.erase (source, target)).keys.Nodup
    rw [Table.keys_erase]
    exact h.nodup.filter _
  successors id := by
    refine (Edges.successors_erase m.edges source target id).trans ?_
    rw [h.successors]
    exact (Index.idsAt_drop m.successors source target id).symm
  predecessors id := by
    refine (Edges.predecessors_erase m.edges source target id).trans ?_
    have hbefore := h.predecessors id
    split
    · next hid =>
      have hnodup := Edges.nodup_predecessors h.nodup id
      rw [hbefore, if_pos hid, List.cons_append] at hnodup ⊢
      exact Index.filter_ne_head hnodup
    · next hid =>
      rw [hbefore, if_neg hid]
      rfl

theorem IndexedBut.foldl_dropEdge (h : IndexedBut target pending m) :
    (pending.foldl (IndexedUnit.dropEdge target) m).Indexed := by
  induction pending generalizing m with
  | nil => exact h.indexed
  | cons source rest ih => exact ih h.dropEdge

theorem Indexed.dropInEdges (h : m.Indexed) (target : NodeId) : (m.dropInEdges target).Indexed :=
  (h.erase target).foldl_dropEdge

theorem edges_foldl_dropEdge (sources : List NodeId) (target : NodeId) (m : IndexedUnit) :
    (sources.foldl (dropEdge target) m).edges =
      ⟨m.edges.entries.filter fun e => ¬ (e.1.2 = target ∧ e.1.1 ∈ sources)⟩ := by
  induction sources generalizing m with
  | nil =>
    rw [List.filter_eq_self.mpr (by simp)]
    rfl
  | cons source rest ih =>
    have hedges : (dropEdge target m source).edges = m.edges.erase (source, target) := rfl
    rw [List.foldl_cons, ih, hedges, Table.erase, List.filter_filter]
    congr 2
    funext e
    obtain ⟨⟨s, t⟩, tags⟩ := e
    by_cases hs : s = source <;> by_cases ht : t = target <;> simp [hs, ht]

/-- All edges into the node are gone, and no others. -/
theorem Indexed.edges_dropInEdges (h : m.Indexed) (target : NodeId) :
    (m.dropInEdges target).edges = ⟨m.edges.entries.filter fun e => e.1.2 ≠ target⟩ := by
  unfold IndexedUnit.dropInEdges
  rw [edges_foldl_dropEdge]
  congr 1
  refine List.filter_congr fun e he => decide_eq_decide.mpr (not_congr ?_)
  refine and_iff_left_of_imp fun ht => h.mem_predecessorsOf.mpr ?_
  rw [← ht]
  exact List.mem_map_of_mem he

/-- Taking the edges into several nodes out. -/
theorem Indexed.foldl_dropInEdges (h : m.Indexed) (targets : List NodeId) :
    (targets.foldl IndexedUnit.dropInEdges m).Indexed ∧
      (targets.foldl IndexedUnit.dropInEdges m).edges =
        ⟨m.edges.entries.filter fun e => e.1.2 ∉ targets⟩ := by
  induction targets generalizing m with
  | nil =>
    rw [List.filter_eq_self.mpr (by simp)]
    exact ⟨h, rfl⟩
  | cons target rest ih =>
    obtain ⟨hindexed, hedges⟩ := ih (h.dropInEdges target)
    refine ⟨hindexed, ?_⟩
    rw [List.foldl_cons, hedges, h.edges_dropInEdges, List.filter_filter]
    congr 2
    funext e
    by_cases ht : e.1.2 = target <;> simp [ht]

/-! ### Reading an export -/

/-- The edges of an export lead to nodes that it has. -/
theorem mem_nodes_of_edge (hclosed : graph.Closed) (unit : NodeId) (file : String)
    {e : (NodeId × NodeId) × List String} (he : e ∈ (CodeUnit.edgesOfDot graph).entries) :
    e.1.2 ∈ (CodeUnit.readNodes graph code unit file).map ProgramNode.id := by
  obtain ⟨edge, hedge, -, ht⟩ := CodeUnit.mem_keys_edgesOfDot (List.mem_map_of_mem he)
  obtain ⟨node, hnode, hid⟩ :=
    CodeUnit.exists_mem_readNodes (hclosed edge hedge).2 ht code unit file
  exact List.mem_map.mpr ⟨node, hnode, hid⟩

/-- Of the edges of an export those stay that do not lead into the end of a unit. -/
theorem Indexed.readEdges (h : m.Indexed) (hempty : m.edges = {}) (hclosed : graph.Closed)
    {unit : NodeId} {file : String}
    (hnodes : m.nodes = (CodeUnit.readNodes graph code unit file).map ProgramNode.id)
    (arena : Arena) :
    (m.readEdges graph arena).Indexed ∧
      (m.readEdges graph arena).toCodeUnit =
        { m.toCodeUnit with
          edges := ⟨(CodeUnit.edgesOfDot graph).entries.filter fun e =>
            arena.kind e.1.2 ≠ "METHOD_RETURN"⟩ } := by
  have hadded : (graph.edges.foldl IndexedUnit.addDotEdge m).Indexed :=
    List.foldlRecOn (motive := Indexed) _ _ h fun m hm edge _ => hm.addDotEdge edge
  have hfirst : OnlyEdges m (graph.edges.foldl IndexedUnit.addDotEdge m) :=
    .foldl onlyEdges_addDotEdge graph.edges m
  obtain ⟨hindexed, hedges⟩ :=
    hadded.foldl_dropInEdges ((graph.edges.foldl IndexedUnit.addDotEdge m).ends arena)
  have honly : OnlyEdges m (m.readEdges graph arena) :=
    hfirst.trans (.foldl onlyEdges_dropInEdges _ _)
  have hsame : (m.readEdges graph arena).edges =
      ⟨(CodeUnit.edgesOfDot graph).entries.filter fun e =>
        arena.kind e.1.2 ≠ "METHOD_RETURN"⟩ := by
    refine hedges.trans ?_
    rw [edges_foldl_addDotEdge hempty]
    congr 1
    refine List.filter_congr fun e he => decide_eq_decide.mpr (not_congr ?_)
    -- the ends are looked for among the nodes of the unit
    have hmem : e.1.2 ∈ (graph.edges.foldl IndexedUnit.addDotEdge m).nodes := by
      rw [congrArg CodeUnit.nodes hfirst, hnodes]
      exact mem_nodes_of_edge hclosed unit file he
    simp [IndexedUnit.ends, hmem]
  refine ⟨hindexed, ?_⟩
  rw [honly, hsame]

theorem edges_headOfDot {u : CodeUnit} (h : CodeUnit.headOfDot graph code = some u) :
    u.edges = {} := by
  unfold CodeUnit.headOfDot at h
  simp only [Option.bind_eq_bind, Option.bind_eq_some_iff] at h
  obtain ⟨_, -, _, -, _, -, h⟩ := h
  split at h
  · cases h
  · cases h
    rfl

theorem indexed_of_empty (hempty : m.edges = {}) (hsuccessors : m.successors = {})
    (hpredecessors : m.predecessors = {}) : m.Indexed where
  nodup := by rw [hempty]; exact List.nodup_nil
  successors id := by rw [hempty, successorsOf, hsuccessors]; rfl
  predecessors id := by rw [hempty, predecessorsOf, hpredecessors]; rfl

/-- **With indexes an export gives the same unit, and they answer as its edges do.** -/
theorem ofDot_agrees (hclosed : graph.Closed) (code : CodeGraph) (arena : Arena) :
    (ofDot graph code arena).map (fun r => (r.1.toCodeUnit, r.2)) =
        CodeUnit.ofDot graph code arena ∧
      ∀ m arena', ofDot graph code arena = some (m, arena') → ∀ id,
        m.successorsOf id = m.toCodeUnit.successors id ∧
        m.predecessorsOf id = m.toCodeUnit.predecessors id := by
  unfold ofDot CodeUnit.ofDot
  cases hhead : CodeUnit.headOfDot graph code with
  | none => exact ⟨rfl, nofun⟩
  | some u =>
    have hempty := edges_headOfDot hhead
    let m : IndexedUnit :=
      { u with nodes := (CodeUnit.readNodes graph code u.id u.file).map ProgramNode.id }
    obtain ⟨hindexed, hunit⟩ := Indexed.readEdges (m := m) (indexed_of_empty hempty rfl rfl) hempty
      hclosed rfl ((CodeUnit.readNodes graph code u.id u.file).foldl Arena.insertNode arena)
    constructor
    · show some (_, _) = some (_, _)
      rw [hunit]
    · rintro m arena' ⟨⟩ id
      exact ⟨(hindexed.successors id).symm, (hindexed.predecessors id).symm⟩

end PackageVet.IndexedUnit

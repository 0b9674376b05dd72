import PackageVet.Analysis
import PackageVet.Build.State
import PackageVet.Proofs.Dot.Ends
import PackageVet.Proofs.Effect

/-! Packages that were loaded from exports.

Every unit is read from an export of its own, and all put their nodes into one arena (`Loaded`;
`loaded_of_loadUnits`). In such a package an arena knows each node by its id, and the ends of a
unit's edges are nodes of the unit and known.

A build changes the arena only by marking nodes: what an export says of a node, its `unmarked` part,
stays. A state is over a package when it knows the package's nodes, whatever marks they have
(`BuildState.Over`). -/
namespace PackageVet

/-! ### Marks -/

/-- What an export says of a node, without what the analysis found out about it. -/
def ProgramNode.unmarked (n : ProgramNode) : ProgramNode :=
  { n with
    returnValue := false
    callKind := none
    fullName := none
    derivation := none
    sensitivity := none
    callee := none }

def Arena.unmarked (a : Arena) (id : NodeId) : Option ProgramNode :=
  (a.get? id).map ProgramNode.unmarked

theorem Arena.unmarked_modify (a : Arena) (id : NodeId) {change : ProgramNode → ProgramNode}
    (h : ∀ n, (change n).unmarked = n.unmarked) (other : NodeId) :
    Arena.unmarked (a.modify id change) other = a.unmarked other := by
  rw [Arena.unmarked, Arena.unmarked, Table.get?_modify]
  split
  · rw [Option.map_map]
    exact Option.map_congr fun n _ => h n
  · rfl

/-! ### Reading a unit -/

theorem Arena.get?_foldl_insertNode {nodes : List ProgramNode} {arena : Arena} {id : NodeId}
    {node : ProgramNode} (h : Table.get? (nodes.foldl Arena.insertNode arena) id = some node) :
    (node ∈ nodes ∧ node.id = id) ∨ arena.get? id = some node := by
  induction nodes generalizing arena with
  | nil => exact .inr h
  | cons n rest ih =>
    rcases ih h with ⟨hn, hid⟩ | hn
    · exact .inl ⟨List.mem_cons_of_mem n hn, hid⟩
    · rw [Arena.insertNode, Table.get?_insert] at hn
      split at hn
      · next he =>
        cases hn
        exact .inl ⟨List.mem_cons_self .., he.symm⟩
      · exact .inr hn

theorem Arena.mem_keys_foldl_insertNode {nodes : List ProgramNode} {arena : Arena} {id : NodeId} :
    id ∈ Table.keys (nodes.foldl Arena.insertNode arena) ↔
      id ∈ arena.keys ∨ id ∈ nodes.map ProgramNode.id := by
  induction nodes generalizing arena with
  | nil => simp
  | cons n rest ih =>
    have hinsert : id ∈ (arena.insertNode n).keys ↔ id ∈ arena.keys ∨ id = n.id := by
      rw [Arena.insertNode, Table.keys_insert]
      split
      · next hn => exact ⟨.inl, fun h => h.elim (fun hm => hm) fun he => he ▸ hn⟩
      · simp
    rw [List.foldl_cons, ih, hinsert, List.map_cons, List.mem_cons, or_assoc]

namespace CodeUnit
variable {graph : Dot.Graph} {code : CodeGraph} {arena arena' : Arena} {u : CodeUnit} {s t : NodeId}

theorem mem_keys_edgesOfDot (h : (s, t) ∈ (edgesOfDot graph).keys) :
    ∃ edge ∈ graph.edges, nodeId? edge.source = some s ∧ nodeId? edge.target = some t := by
  have hall : ∀ key ∈ (edgesOfDot graph).keys, ∃ edge ∈ graph.edges,
      nodeId? edge.source = some key.1 ∧ nodeId? edge.target = some key.2 := by
    unfold edgesOfDot
    refine List.foldlRecOn (motive := fun (edges : Edges (List String)) => ∀ key ∈ edges.keys,
      ∃ edge ∈ graph.edges, nodeId? edge.source = some key.1 ∧ nodeId? edge.target = some key.2)
      _ _ (fun key hkey => by cases hkey) ?_
    intro edges ih edge hedge key hkey
    split at hkey
    · next source target hs ht =>
      rw [addTags, Table.keys_insert] at hkey
      split at hkey
      · exact ih key hkey
      · rcases List.mem_append.mp hkey with hkey | hkey
        · exact ih key hkey
        · cases List.mem_singleton.mp hkey
          exact ⟨edge, hedge, hs, ht⟩
    · exact ih key hkey
  exact hall (s, t) h

theorem mem_of_headOfDot (h : headOfDot graph code = some u) :
    ∃ first ∈ graph.nodes.entries, nodeId? first.1 = some u.id := by
  unfold headOfDot at h
  simp only [Option.bind_eq_bind, Option.bind_eq_some_iff] at h
  obtain ⟨first, hfirst, id, hid, name, -, h⟩ := h
  split at h
  · cases h
  · cases h
    exact ⟨first, List.mem_of_mem_head? hfirst, hid⟩

/-- Everything that a unit and its arena take from an export. -/
theorem ofDot_cases (h : ofDot graph code arena = some (u, arena')) :
    (∃ first ∈ graph.nodes.entries, nodeId? first.1 = some u.id) ∧
    u.nodes = (readNodes graph code u.id u.file).map ProgramNode.id ∧
    arena' = (readNodes graph code u.id u.file).foldl Arena.insertNode arena ∧
    u.edges = ⟨(edgesOfDot graph).entries.filter fun e => arena'.kind e.1.2 ≠ "METHOD_RETURN"⟩ := by
  unfold ofDot at h
  simp only [Option.bind_eq_bind, Option.bind_eq_some_iff, Option.some.injEq, Prod.mk.injEq] at h
  obtain ⟨head, hhead, rfl, rfl⟩ := h
  obtain ⟨first, hfirst, hid⟩ := mem_of_headOfDot hhead
  exact ⟨⟨first, hfirst, hid⟩, rfl, rfl, rfl⟩

/-- What a unit takes from its export. -/
theorem ofDot_eq_some (h : ofDot graph code arena = some (u, arena')) :
    (∃ nodes : List ProgramNode, u.nodes = nodes.map ProgramNode.id ∧
      (∀ node ∈ nodes, node.unmarked = node) ∧ arena' = nodes.foldl Arena.insertNode arena) ∧
    (∀ name ∈ graph.nodes.keys, ∀ id, nodeId? name = some id → id ∈ u.nodes) ∧
    u.edges.keys ⊆ (edgesOfDot graph).keys := by
  obtain ⟨-, hnodes, harena, hedges⟩ := ofDot_cases h
  refine ⟨⟨_, hnodes, ?_, harena⟩, ?_, ?_⟩
  · intro node hnode
    obtain ⟨⟨name, own⟩, -, hof⟩ := List.mem_filterMap.mp hnode
    obtain ⟨nodeId, -, rfl⟩ := Option.map_eq_some_iff.mp hof
    rfl
  · intro name hname n hn
    obtain ⟨⟨name, own⟩, hentry, rfl⟩ := List.mem_map.mp hname
    rw [hnodes]
    exact List.mem_map.mpr ⟨_, List.mem_filterMap.mpr ⟨_, hentry, by rw [hn]; rfl⟩, rfl⟩
  · rw [hedges]
    exact List.map_subset _ List.filter_sublist.subset

/-- The first node of an export is the entrance of its unit. -/
theorem id_mem_nodes (h : ofDot graph code arena = some (u, arena')) : u.id ∈ u.nodes := by
  obtain ⟨first, hfirst, hid⟩ := (ofDot_cases h).1
  exact (ofDot_eq_some h).2.1 first.1 (List.mem_map_of_mem hfirst) _ hid

end CodeUnit

/-! ### Loading a package -/

/-- Whether units and an arena come from exports, read one after another. -/
inductive Loaded (code : CodeGraph) : List CodeUnit → Arena → Prop where
  | empty : Loaded code [] {}
  | unit {units : List CodeUnit} {arena arena' : Arena} {text : String} {graph : Dot.Graph}
      {u : CodeUnit} : Loaded code units arena → Dot.Graph.parse text = .ok graph →
      CodeUnit.ofDot graph code arena = some (u, arena') → Loaded code (units ++ [u]) arena'

namespace Loaded
variable {code : CodeGraph} {units : List CodeUnit} {arena : Arena} {u : CodeUnit} {s t n : NodeId}
  {node : ProgramNode}

theorem id_eq (h : Loaded code units arena) (hn : arena.get? n = some node) : node.id = n := by
  induction h with
  | empty => cases hn
  | unit _ _ hof ih =>
    obtain ⟨⟨nodes, -, -, rfl⟩, -, -⟩ := CodeUnit.ofDot_eq_some hof
    rcases Arena.get?_foldl_insertNode hn with ⟨-, hid⟩ | hn
    · exact hid
    · exact ih hn

/-- Nothing is marked yet. -/
theorem unmarked_eq (h : Loaded code units arena) (hn : arena.get? n = some node) :
    node.unmarked = node := by
  induction h with
  | empty => cases hn
  | unit _ _ hof ih =>
    obtain ⟨⟨nodes, -, hnodes, rfl⟩, -, -⟩ := CodeUnit.ofDot_eq_some hof
    rcases Arena.get?_foldl_insertNode hn with ⟨hmem, -⟩ | hn
    · exact hnodes node hmem
    · exact ih hn

theorem mem_keys (h : Loaded code units arena) (hu : u ∈ units) (hn : n ∈ u.nodes) :
    n ∈ arena.keys := by
  induction h with
  | empty => cases hu
  | unit _ _ hof ih =>
    obtain ⟨⟨nodes, hnodes, -, rfl⟩, -, -⟩ := CodeUnit.ofDot_eq_some hof
    rw [Arena.mem_keys_foldl_insertNode]
    rcases List.mem_append.mp hu with hu | hu
    · exact .inl (ih hu)
    · cases List.mem_singleton.mp hu
      exact .inr (hnodes ▸ hn)

theorem id_mem (h : Loaded code units arena) (hu : u ∈ units) : u.id ∈ u.nodes := by
  induction h with
  | empty => cases hu
  | unit _ _ hof ih =>
    rcases List.mem_append.mp hu with hu | hu
    · exact ih hu
    · cases List.mem_singleton.mp hu
      exact CodeUnit.id_mem_nodes hof

theorem ends (h : Loaded code units arena) (hu : u ∈ units) (he : (s, t) ∈ u.edges.keys) :
    s ∈ u.nodes ∧ t ∈ u.nodes := by
  induction h with
  | empty => cases hu
  | unit _ hparse hof ih =>
    rcases List.mem_append.mp hu with hu | hu
    · exact ih hu
    · cases List.mem_singleton.mp hu
      obtain ⟨-, hnodes, hedges⟩ := CodeUnit.ofDot_eq_some hof
      obtain ⟨edge, hedge, hs, ht⟩ := CodeUnit.mem_keys_edgesOfDot (hedges he)
      obtain ⟨hsource, htarget⟩ := Dot.Graph.closed_of_parse hparse edge hedge
      exact ⟨hnodes _ hsource s hs, hnodes _ htarget t ht⟩

end Loaded

theorem Analyzer.parse_of_loadGraph {σ : Type} {path : String} {s s' : FileTree × σ}
    {graph : Dot.Graph} (h : (loadGraph path).run s = (.ok graph, s')) :
    ∃ text, Dot.Graph.parse text = .ok graph := by
  unfold loadGraph at h
  obtain ⟨tree, s₁, -, h⟩ := Effect.run_bind_eq_ok.mp h
  obtain ⟨text, s₂, -, h⟩ := Effect.run_bind_eq_ok.mp h
  refine ⟨text, ?_⟩
  cases hparse : Dot.Graph.parse text with
  | ok graph' =>
    rw [hparse] at h
    rw [(Effect.run_pure_eq_ok.mp h).1]
  | error e =>
    rw [hparse] at h
    cases h

/-- The units that an analysis works on are loaded. -/
theorem loaded_of_loadUnits {σ : Type} {code : CodeGraph} {exports : List String}
    {s s' : FileTree × σ} {index : UnitIndex} {arena : Arena}
    (h : (Analyzer.loadUnits code exports).run s = (.ok (index, arena), s')) :
    Loaded code index.units arena := by
  unfold Analyzer.loadUnits at h
  obtain ⟨⟨units, arena'⟩, s₁, hfold, h⟩ := Effect.run_bind_eq_ok.mp h
  cases (Effect.run_pure_eq_ok.mp h).1
  -- the units are kept with the last one first
  refine Effect.foldlM_induction (P := fun r => Loaded code r.1.reverse r.2) .empty ?_ hfold
  rintro ⟨units, arena⟩ path s ⟨units', arena'⟩ s' hloaded hstep
  obtain ⟨graph, s₁, hgraph, hstep⟩ := Effect.run_bind_eq_ok.mp hstep
  obtain ⟨text, hparse⟩ := Analyzer.parse_of_loadGraph hgraph
  cases hof : CodeUnit.ofDot graph code arena with
  | none =>
    rw [hof] at hstep
    cases (Effect.run_pure_eq_ok.mp hstep).1
    exact hloaded
  | some loaded =>
    obtain ⟨u, arena₁⟩ := loaded
    rw [hof] at hstep
    cases (Effect.run_pure_eq_ok.mp hstep).1
    rw [List.reverse_cons]
    exact hloaded.unit hparse hof

theorem UnitIndex.id_of_get? {index : UnitIndex} {id : NodeId} {u : CodeUnit}
    (h : index.get? id = some u) : u.id = id := by
  have hfound := List.find?_some h
  simpa using hfound

theorem UnitIndex.mem_units_of_get? {index : UnitIndex} {id : NodeId} {u : CodeUnit}
    (h : index.get? id = some u) : u ∈ index.units :=
  List.mem_reverse.mp (List.mem_of_find?_eq_some h)

theorem UnitIndex.get?_of_mem {index : UnitIndex} {u : CodeUnit} (hu : u ∈ index.units) :
    ∃ v, index.get? u.id = some v := by
  refine Option.isSome_iff_exists.mp (List.find?_isSome.mpr ⟨u, List.mem_reverse.mpr hu, ?_⟩)
  simp

/-! ### States over a package -/

/-- Whether a node is flagged as the entrance of a unit. -/
def Arena.isEntrance (a : Arena) (id : NodeId) : Bool := (a.get? id).any ProgramNode.entrance

/-- Whether a state knows the nodes of a package, with whatever marks. -/
def BuildState.Over (s : BuildState) (arena : Arena) : Prop :=
  ∀ id ∈ arena.keys, s.arena.unmarked id = arena.unmarked id

/-- What a state over a package knows of a node of a unit. -/
theorem Loaded.known {code : CodeGraph} {units : List CodeUnit} {arena : Arena} {s : BuildState}
    {u : CodeUnit} {n : NodeId} (h : Loaded code units arena) (hover : s.Over arena)
    (hu : u ∈ units) (hn : n ∈ u.nodes) :
    ∃ node, s.arena.get? n = some node ∧ node.id = n ∧ node.entrance = arena.isEntrance n := by
  have hkey := h.mem_keys hu hn
  obtain ⟨loaded, hloaded⟩ :=
    Option.isSome_iff_exists.mp ((Table.contains_iff arena n).mpr hkey)
  have hsame := hover n hkey
  rw [Arena.unmarked, Arena.unmarked, hloaded] at hsame
  obtain ⟨node, hnode, heq⟩ := Option.map_eq_some_iff.mp hsame
  have hid : node.id = loaded.id :=
    show node.unmarked.id = loaded.unmarked.id from congrArg ProgramNode.id heq
  have hentrance : node.entrance = loaded.entrance :=
    show node.unmarked.entrance = loaded.unmarked.entrance from congrArg ProgramNode.entrance heq
  refine ⟨node, hnode, hid.trans (h.id_eq hloaded), ?_⟩
  rw [hentrance, Arena.isEntrance, hloaded]
  rfl

theorem BuildState.arena_initializeScopes (s : BuildState) (index : UnitIndex)
    (sources : PackageSources) : (s.initializeScopes index sources).arena = s.arena :=
  List.foldlRecOn (motive := fun (t : BuildState) => t.arena = s.arena) _ _ rfl fun _ h _ _ => h

/-! ### Packages given by texts -/

/-- One unit more, read from the text of its export. -/
def readUnit? (code : CodeGraph) (before : List CodeUnit × Arena) (text : String) :
    Option (List CodeUnit × Arena) := do
  let graph ← (Dot.Graph.parse text).toOption
  let (u, arena) ← CodeUnit.ofDot graph code before.2
  return (before.1 ++ [u], arena)

/-- The units and the arena that the texts of exports give, if each of them gives a unit. -/
def readUnits? (code : CodeGraph) (texts : List String) : Option (List CodeUnit × Arena) :=
  texts.foldlM (readUnit? code) ([], {})

theorem Loaded.readUnit? {code : CodeGraph} {before after : List CodeUnit × Arena} {text : String}
    (hloaded : Loaded code before.1 before.2) (h : readUnit? code before text = some after) :
    Loaded code after.1 after.2 := by
  simp only [PackageVet.readUnit?, Option.bind_eq_bind, Option.bind_eq_some_iff] at h
  obtain ⟨graph, hparse, ⟨u, arena'⟩, hof, ⟨⟩⟩ := h
  have hok : Dot.Graph.parse text = .ok graph := by
    cases hresult : Dot.Graph.parse text with
    | ok graph' =>
      rw [hresult] at hparse
      cases hparse
      rfl
    | error e =>
      rw [hresult] at hparse
      cases hparse
  exact hloaded.unit hok hof

theorem loaded_of_readUnits? {code : CodeGraph} {texts : List String}
    {after : List CodeUnit × Arena} (h : readUnits? code texts = some after) :
    Loaded code after.1 after.2 := by
  suffices hfold : ∀ (texts : List String) (before : List CodeUnit × Arena),
      Loaded code before.1 before.2 → texts.foldlM (readUnit? code) before = some after →
      Loaded code after.1 after.2 from hfold texts _ .empty h
  intro texts
  induction texts with
  | nil =>
    rintro before hbefore ⟨⟩
    exact hbefore
  | cons text rest ih =>
    intro before hbefore hfold
    rw [List.foldlM_cons, Option.bind_eq_bind, Option.bind_eq_some_iff] at hfold
    obtain ⟨next, hnext, hrest⟩ := hfold
    exact ih next (hbefore.readUnit? hnext) hrest

end PackageVet

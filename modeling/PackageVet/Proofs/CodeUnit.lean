import Mathlib.Data.List.Induction
import PackageVet.Proofs.Build.Package
import PackageVet.Proofs.CodeGraph

/-! A unit says what its export says.

An export may give many edges between the same two nodes, edges from a node to itself, and the number
of one node in several spellings. Of all of them the unit keeps one edge, with their tags one after
the other (`get?_edgesOfDot`), unless it leads into the end of a unit. An edge that is kept is seen
from both of its ends, exactly once (`Faithful`).

The arena takes the nodes of the export, each as its last spelling has it, and is otherwise as it
was (`get?_foldl_insertNode_eq`). An export that gives no unit leaves it alone
(`run_loadUnits_skip`). -/
namespace PackageVet

/-! ### Edges -/

namespace CodeUnit
variable {graph : Dot.Graph} {code : CodeGraph} {arena arena' : Arena} {u : CodeUnit} {s t : NodeId}
  {edges : List Dot.Edge} {e : Dot.Edge}

/-- The tags of all edges from one node to another, in the order of the edges. -/
def tagsBetween (edges : List Dot.Edge) (s t : NodeId) : List String :=
  (edges.filter fun e => e.Joins s t).flatMap tagsOfDot

theorem edgesOfDot_append_of_joins (h : e.Joins s t) :
    edgesOfDot { edges := edges ++ [e] } =
      addTags (edgesOfDot { edges }) s t (tagsOfDot e) := by
  unfold edgesOfDot
  rw [List.foldl_append, List.foldl_cons, List.foldl_nil, h.1, h.2]

theorem edgesOfDot_append_of_not_joins (h : ∀ s t, ¬ e.Joins s t) :
    edgesOfDot { edges := edges ++ [e] } = edgesOfDot { edges } := by
  unfold edgesOfDot
  rw [List.foldl_append, List.foldl_cons, List.foldl_nil]
  split
  · next hsource htarget => exact absurd ⟨hsource, htarget⟩ (h _ _)
  · rfl

theorem nodup_edgesOfDot (edges : List Dot.Edge) : (edgesOfDot { edges }).keys.Nodup := by
  induction edges using List.reverseRecOn with
  | nil => exact List.nodup_nil
  | append_singleton edges e ih =>
    by_cases hends : ∃ s t, e.Joins s t
    · obtain ⟨s, t, hjoins⟩ := hends
      rw [edgesOfDot_append_of_joins hjoins]
      exact Table.nodup_insert _ _ _ ih
    · rw [edgesOfDot_append_of_not_joins fun s t hjoins => hends ⟨s, t, hjoins⟩]
      exact ih

theorem get?_edgesOfDot (edges : List Dot.Edge) (s t : NodeId) :
    (edgesOfDot { edges }).get? (s, t) =
      if ∃ e ∈ edges, e.Joins s t then some (tagsBetween edges s t) else none := by
  induction edges using List.reverseRecOn with
  | nil => simp [edgesOfDot, Table.get?, Table.find?]
  | append_singleton edges e ih =>
    by_cases hjoins : e.Joins s t
    · have htags : ((edgesOfDot { edges }).get? (s, t)).getD [] = tagsBetween edges s t := by
        rw [ih]
        split
        · rfl
        · next hnone =>
          have hno : edges.filter (fun e => e.Joins s t) = [] :=
            List.filter_eq_nil_iff.mpr fun e he => by simpa using fun h => hnone ⟨e, he, h⟩
          simp [tagsBetween, hno]
      rw [edgesOfDot_append_of_joins hjoins, addTags, Table.get?_insert_self, htags,
        if_pos ⟨e, by simp, hjoins⟩]
      simp [tagsBetween, hjoins]
    · have hsame : (edgesOfDot { edges := edges ++ [e] }).get? (s, t) =
          (edgesOfDot { edges }).get? (s, t) := by
        by_cases hends : ∃ s t, e.Joins s t
        · obtain ⟨s', t', hother⟩ := hends
          rw [edgesOfDot_append_of_joins hother, addTags, Table.get?_insert_of_ne]
          intro heq
          cases heq
          exact hjoins hother
        · rw [edgesOfDot_append_of_not_joins fun s t hjoins => hends ⟨s, t, hjoins⟩]
      rw [hsame, ih]
      simp [tagsBetween, hjoins, or_and_right, exists_or]

/-- Whether an export leads from one node to another that is not the end of a unit. -/
def Flows (graph : Dot.Graph) (arena : Arena) (s t : NodeId) : Prop :=
  (∃ e ∈ graph.edges, e.Joins s t) ∧ arena.kind t ≠ "METHOD_RETURN"

instance : Decidable (Flows graph arena s t) := inferInstanceAs (Decidable (_ ∧ _))

/-- One edge is kept for all that flow from one node to another, with all their tags. -/
theorem tags?_ofDot (h : ofDot graph code arena = some (u, arena')) (s t : NodeId) :
    u.tags? s t =
      if Flows graph arena' s t then some (tagsBetween graph.edges s t) else none := by
  have hedges : edgesOfDot graph = edgesOfDot { edges := graph.edges } := rfl
  rw [tags?, (ofDot_cases h).2.2.2,
    (edgesOfDot graph).get?_filter fun key => arena'.kind key.2 ≠ "METHOD_RETURN", hedges,
    get?_edgesOfDot]
  by_cases hend : arena'.kind t = "METHOD_RETURN" <;> simp [Flows, hend]

theorem nodup_ofDot (h : ofDot graph code arena = some (u, arena')) : u.edges.keys.Nodup := by
  rw [(ofDot_cases h).2.2.2]
  exact (nodup_edgesOfDot graph.edges).sublist (List.filter_sublist.map Prod.fst)

theorem mem_keys_ofDot (h : ofDot graph code arena = some (u, arena')) :
    (s, t) ∈ u.edges.keys ↔ Flows graph arena' s t := by
  have htags := tags?_ofDot h s t
  unfold tags? at htags
  rw [← Table.contains_iff, Table.contains, htags]
  by_cases hflows : Flows graph arena' s t <;> simp [hflows]

theorem count_keys_ofDot (h : ofDot graph code arena = some (u, arena')) :
    u.edges.keys.count (s, t) = 1 ↔ Flows graph arena' s t := by
  have hcount := List.nodup_iff_count.mp (nodup_ofDot h) (s, t)
  rw [← mem_keys_ofDot h, ← List.count_pos_iff]
  omega

end CodeUnit

/-! ### Nodes -/

/-- Of several nodes with one id the arena has the last. -/
theorem Arena.get?_foldl_insertNode_eq (nodes : List ProgramNode) (arena : Arena) (id : NodeId) :
    Table.get? (nodes.foldl Arena.insertNode arena) id =
      (nodes.reverse.find? fun node => node.id = id).or (arena.get? id) := by
  induction nodes generalizing arena with
  | nil => simp
  | cons node rest ih =>
    rw [List.foldl_cons, ih, List.reverse_cons, List.find?_append, Option.or_assoc]
    congr 1
    rw [Arena.insertNode, Table.get?_insert]
    by_cases hid : node.id = id
    · simp [hid]
    · simp [hid, Ne.symm hid]

namespace CodeUnit
variable {graph : Dot.Graph} {code : CodeGraph} {arena arena' : Arena} {u : CodeUnit} {id : NodeId}

theorem mem_readNodes {unit : NodeId} {file : String} {node : ProgramNode}
    (h : node ∈ readNodes graph code unit file) :
    node.unit = unit ∧ node.entrance = decide (node.id = unit) ∧
      ∃ name ∈ graph.nodes.keys, nodeId? name = some node.id := by
  obtain ⟨entry, hentry, hnode⟩ := List.mem_filterMap.mp h
  obtain ⟨id, hid, rfl⟩ := Option.map_eq_some_iff.mp hnode
  exact ⟨rfl, rfl, entry.1, List.mem_map_of_mem hentry, hid⟩

theorem exists_mem_readNodes {name : String} (hname : name ∈ graph.nodes.keys)
    (hid : nodeId? name = some id) (code : CodeGraph) (unit : NodeId) (file : String) :
    ∃ node ∈ readNodes graph code unit file, node.id = id := by
  obtain ⟨entry, hentry, rfl⟩ := List.mem_map.mp hname
  refine ⟨nodeOfDot code unit file id entry.2, List.mem_filterMap.mpr ⟨entry, hentry, ?_⟩, rfl⟩
  rw [hid]
  rfl

/-- A node of an export is known as one of the unit. -/
theorem get?_of_named (h : ofDot graph code arena = some (u, arena')) {name : String}
    (hname : name ∈ graph.nodes.keys) (hid : nodeId? name = some id) :
    ∃ node, arena'.get? id = some node ∧ node.id = id ∧ node.unit = u.id ∧
      node.entrance = decide (id = u.id) := by
  obtain ⟨read, hread, hreadId⟩ := exists_mem_readNodes hname hid code u.id u.file
  have hsome : ((readNodes graph code u.id u.file).reverse.find? fun node => node.id = id).isSome := by
    apply List.find?_isSome.mpr
    exact ⟨read, List.mem_reverse.mpr hread, by simpa using hreadId⟩
  obtain ⟨node, hnode⟩ := Option.isSome_iff_exists.mp hsome
  have hnodeId : node.id = id := by simpa using List.find?_some hnode
  have hmem := mem_readNodes (List.mem_reverse.mp (List.mem_of_find?_eq_some hnode))
  refine ⟨node, ?_, hnodeId, hmem.1, ?_⟩
  · rw [(ofDot_cases h).2.2.1, Arena.get?_foldl_insertNode_eq, hnode]
    rfl
  · rw [hmem.2.1, hnodeId]

/-- What is not in an export stays as it was. -/
theorem get?_of_not_named (h : ofDot graph code arena = some (u, arena'))
    (hid : ∀ name ∈ graph.nodes.keys, nodeId? name ≠ some id) :
    arena'.get? id = arena.get? id := by
  have hnone : ((readNodes graph code u.id u.file).reverse.find? fun node => node.id = id) =
      none := by
    apply List.find?_eq_none.mpr
    intro node hnode hnodeId
    obtain ⟨-, -, name, hname, hnameId⟩ := mem_readNodes (List.mem_reverse.mp hnode)
    have hsame : node.id = id := by simpa using hnodeId
    exact hid name hname (hsame ▸ hnameId)
  rw [(ofDot_cases h).2.2.1, Arena.get?_foldl_insertNode_eq, hnone]
  rfl

/-! ### Units -/

/-- Whether a unit and its arena say what an export says. -/
structure Faithful (graph : Dot.Graph) (arena : Arena) (u : CodeUnit) (arena' : Arena) :
    Prop where
  successors : ∀ s t, (u.successors s).count t = 1 ↔ Flows graph arena' s t
  predecessors : ∀ s t, (u.predecessors t).count s = 1 ↔ Flows graph arena' s t
  tagged : ∀ s t, (u.tags? s t).isSome = true ↔ Flows graph arena' s t
  tags : ∀ s t, Flows graph arena' s t → u.tags? s t = some (tagsBetween graph.edges s t)
  /-- Nothing is there that does not flow. -/
  only : ∀ s t, ¬ Flows graph arena' s t → t ∉ u.successors s ∧ s ∉ u.predecessors t
  known : ∀ name ∈ graph.nodes.keys, ∀ id, nodeId? name = some id →
    ∃ node, arena'.get? id = some node ∧ node.id = id ∧ node.unit = u.id ∧
      (node.entrance = true ↔ id = u.id)
  others : ∀ id, (∀ name ∈ graph.nodes.keys, nodeId? name ≠ some id) →
    arena'.get? id = arena.get? id

theorem faithful_ofDot (h : ofDot graph code arena = some (u, arena')) :
    Faithful graph arena u arena' where
  successors s t := by
    rw [CodeUnit.successors, Edges.count_successors]
    exact count_keys_ofDot h
  predecessors s t := by
    rw [CodeUnit.predecessors, Edges.count_predecessors]
    exact count_keys_ofDot h
  tagged s t := by
    rw [tags?_ofDot h]
    by_cases hflows : Flows graph arena' s t <;> simp [hflows]
  tags s t hflows := by rw [tags?_ofDot h, if_pos hflows]
  only s t hflows := by
    rw [CodeUnit.successors, CodeUnit.predecessors, Edges.mem_successors, Edges.mem_predecessors,
      mem_keys_ofDot h]
    exact ⟨hflows, hflows⟩
  known name hname id hid := by
    obtain ⟨node, hnode, hnodeId, hunit, hentrance⟩ := get?_of_named h hname hid
    exact ⟨node, hnode, hnodeId, hunit, by simp [hentrance]⟩
  others id hid := get?_of_not_named h hid

end CodeUnit

/-! ### Exports without a unit -/

namespace Analyzer
variable {σ : Type} {graph : Dot.Graph} {code : CodeGraph} {arena : Arena}

theorem run_loadUnits_skip {exports : List String} {path : String} {s s₁ s₂ : FileTree × σ}
    {index : UnitIndex} (hnone : CodeUnit.ofDot graph code arena = none)
    (hload : (loadUnits code exports).run s = (.ok (index, arena), s₁))
    (hgraph : (loadGraph path).run s₁ = (.ok graph, s₂)) :
    (loadUnits code (exports ++ [path])).run s = (.ok (index, arena), s₂) := by
  unfold loadUnits at hload ⊢
  obtain ⟨⟨units, arena'⟩, s', hfold, hload⟩ := Effect.run_bind_eq_ok.mp hload
  obtain ⟨hsame, rfl⟩ := Effect.run_pure_eq_ok.mp hload
  cases hsame
  apply Effect.run_bind_eq_ok.mpr
  refine ⟨(units, arena), s₂, ?_, rfl⟩
  rw [List.foldlM_append]
  apply Effect.run_bind_eq_ok.mpr
  refine ⟨(units, arena), _, hfold, ?_⟩
  rw [List.foldlM_cons]
  apply Effect.run_bind_eq_ok.mpr
  refine ⟨(units, arena), s₂, ?_, rfl⟩
  apply Effect.run_bind_eq_ok.mpr
  refine ⟨graph, s₂, hgraph, ?_⟩
  rw [hnone]
  rfl

end Analyzer

/-- **Loading a unit is faithful to its export.** An export that gives none changes nothing. -/
theorem load_faithful (graph : Dot.Graph) (code : CodeGraph) (arena : Arena) :
    (CodeUnit.ofDot graph code arena = none →
      ∀ (σ : Type) (exports : List String) (path : String) (s s₁ s₂ : FileTree × σ)
        (index : UnitIndex),
        (Analyzer.loadUnits code exports).run s = (.ok (index, arena), s₁) →
        (Analyzer.loadGraph path).run s₁ = (.ok graph, s₂) →
        (Analyzer.loadUnits code (exports ++ [path])).run s = (.ok (index, arena), s₂)) ∧
    ∀ u arena', CodeUnit.ofDot graph code arena = some (u, arena') →
      CodeUnit.Faithful graph arena u arena' := by
  constructor
  · intro hnone σ exports path s s₁ s₂ index hload hgraph
    exact Analyzer.run_loadUnits_skip hnone hload hgraph
  · intro u arena' h
    exact CodeUnit.faithful_ofDot h

/-- A function with two edges to one node, whose number is written in two ways, an edge from the
node to itself, and two edges into the end. -/
def spelledTwice : Dot.Graph :=
  let g := ({} : Dot.Graph).addNode "1" [("NAME", "f"), ("FILENAME", "a.js")]
  let g := g.addNode "9" [("NODE_TYPE", "METHOD_RETURN")]
  let g := (g.addEdge "1" "2" [("label", "CFG")]).addEdge "1" "02" [("label", "DDG: x")]
  let g := g.addEdge "2" "2" [("key", "0"), ("kind", "CFG")]
  (g.addEdge "2" "9" [("label", "CFG")]).addEdge "9" "9" [("label", "CFG")]

theorem computed_spelledTwice :
    ∃ r ∈ CodeUnit.ofDot spelledTwice {} {}, CodeUnit.Flows spelledTwice r.2 1 2 ∧
      r.1.successors 1 = [2] ∧ r.1.predecessors 2 = [1, 2] ∧
      CodeUnit.tagsBetween spelledTwice.edges 1 2 = ["CFG", "DDG: x"] ∧
      r.1.predecessors 9 = [] := by
  decide +kernel

/-- A folder with the export of nothing. -/
def emptyExport : FileTree := .ofEntries [("e.dot", some "digraph\x7b\x7d")]

theorem loadGraph_emptyExport :
    (Analyzer.loadGraph "e.dot").run (emptyExport, ()) = (.ok {}, (emptyExport, ())) := by
  have hread : emptyExport.readText "e.dot" = .ok "digraph\x7b\x7d" := rfl
  have hparse : Dot.Graph.parse "digraph\x7b\x7d" = .ok {} := by decide +kernel
  apply Effect.run_bind_eq_ok.mpr
  refine ⟨emptyExport, (emptyExport, ()), rfl, ?_⟩
  rw [hread]
  apply Effect.run_bind_eq_ok.mpr
  refine ⟨"digraph\x7b\x7d", (emptyExport, ()), rfl, ?_⟩
  rw [hparse]
  rfl

theorem load_faithful_spelledTwice :
    (∃ r, CodeUnit.ofDot spelledTwice {} {} = some r ∧ CodeUnit.Faithful spelledTwice {} r.1 r.2 ∧
      r.1.successors 1 = [2] ∧ r.1.predecessors 2 = [1, 2] ∧
      r.1.tags? 1 2 = some ["CFG", "DDG: x"] ∧ r.1.predecessors 9 = []) ∧
    (Analyzer.loadUnits {} ["e.dot"]).run (emptyExport, ()) = (.ok ({}, {}), (emptyExport, ())) := by
  constructor
  · obtain ⟨r, hr, hflows, hsuccessors, hpredecessors, htags, hend⟩ := computed_spelledTwice
    have hfaithful := (load_faithful spelledTwice {} {}).2 r.1 r.2 hr
    refine ⟨r, hr, hfaithful, hsuccessors, hpredecessors, ?_, hend⟩
    rw [hfaithful.tags 1 2 hflows, htags]
  · exact (load_faithful {} {} {}).1 rfl Unit [] "e.dot" _ _ _ {} rfl loadGraph_emptyExport

end PackageVet

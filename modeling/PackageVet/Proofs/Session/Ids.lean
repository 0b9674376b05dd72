import PackageVet.Proofs.FreshIds
import PackageVet.Proofs.Session.Steps
import PackageVet.Proofs.Session.Turns

/-! The ids of the nodes that splitting makes.

An analysis takes as many fresh ids of the code as it needs. It puts a node at each, and of all
other nodes it keeps what the exports say (`Numbered`, `allowed_numbered`). So no node is lost as
long as no export of a unit has an id above those of the code. One that has may lose it
(`split_loses_node`). -/
namespace PackageVet

namespace CodeGraph

/-! ### Ids of an export -/

/-- Whether no id of a graph is above the one from which it counts on. -/
def Counted (g : CodeGraph) : Prop := ∀ id ∈ g.nodes.keys, id ≤ g.lastId

theorem Counted.insertNode {g : CodeGraph} (h : g.Counted) (node : CodeNode) :
    (g.insertNode node).Counted := by
  intro id hid
  have hmem : id ∈ g.nodes.keys ∨ id = node.id := by
    rw [CodeGraph.insertNode, Table.keys_insert] at hid
    split at hid
    · exact .inl hid
    · simpa using hid
  rcases hmem with hold | rfl
  · exact Nat.le_trans (h id hold) (Nat.le_max_left ..)
  · exact Nat.le_max_right ..

theorem Counted.insertDotEdge {g : CodeGraph} (h : g.Counted) (edge : Dot.Edge) :
    (g.insertDotEdge edge).Counted := by
  unfold CodeGraph.insertDotEdge
  split
  · refine List.foldlRecOn (motive := Counted) _ _ h ?_
    intro g hg kind _
    unfold insertEdge
    dsimp only
    split
    · exact hg
    · exact hg
  · exact h

theorem counted_ofDot (graph : Dot.Graph) : (ofDot graph).Counted := by
  unfold ofDot
  apply List.foldlRecOn (motive := Counted)
  · apply List.foldlRecOn (motive := Counted)
    · intro id hid
      cases hid
    · rintro g hg ⟨name, attributes⟩ -
      dsimp only
      unfold insertDotNode
      split
      · exact hg
      · exact hg.insertNode _
  · intro g hg edge _
    exact hg.insertDotEdge edge

/-- Ids that are not above those of the graph are not handed out, until the words have run out. -/
theorem notMem_freshIds {g : CodeGraph} {ids : List NodeId} {n : Nat} {id : NodeId} (hg : g.Counted)
    (hbelow : ∀ id ∈ ids, ∃ known ∈ g.nodes.keys, id ≤ known) (hroom : n + g.lastId < 2 ^ 64)
    (hid : id ∈ ids) : id ∉ (g.freshIds n).1 := by
  intro hmem
  obtain ⟨known, hknown, hle⟩ := hbelow id hid
  have hlt : g.lastId < id := lt_of_mem_freshIds (Nat.le_of_lt_succ hroom) hmem
  exact Nat.lt_irrefl id (Nat.lt_of_le_of_lt (Nat.le_trans hle (hg known hknown)) hlt)

end CodeGraph

/-! ### Arenas -/

theorem Arena.isSome_unmarked (arena : Arena) (id : NodeId) :
    (arena.unmarked id).isSome = arena.contains id := by
  rw [unmarked, Option.isSome_map, Table.contains]

/-- Whether an arena comes from another by putting nodes at the next `n` ids of the code. -/
structure Numbered (n : Nat) (code : CodeGraph) (arena : Arena) (code' : CodeGraph)
    (arena' : Arena) : Prop where
  counter : code' = (code.freshIds n).2
  made : ∀ id ∈ (code.freshIds n).1, arena'.contains id = true
  kept : ∀ id ∉ (code.freshIds n).1, arena'.unmarked id = arena.unmarked id

namespace Numbered
variable {m n : Nat} {code code' code'' : CodeGraph} {arena arena' arena'' : Arena}

/-- Marks need no ids. -/
theorem of_unmarked (h : arena'.unmarked = arena.unmarked) : Numbered 0 code arena code arena' where
  counter := rfl
  made _ h := by cases h
  kept id _ := congrFun h id

theorem trans (h : Numbered m code arena code' arena')
    (h' : Numbered n code' arena' code'' arena'') : Numbered (m + n) code arena code'' arena'' := by
  obtain ⟨rfl, hmade, hkept⟩ := h
  obtain ⟨rfl, hmade', hkept'⟩ := h'
  refine ⟨by rw [CodeGraph.freshIds_add], ?_, ?_⟩
  · intro id hid
    rw [CodeGraph.freshIds_add, List.mem_append] at hid
    by_cases hlater : id ∈ ((code.freshIds m).2.freshIds n).1
    · exact hmade' id hlater
    · rw [← Arena.isSome_unmarked, hkept' id hlater, Arena.isSome_unmarked]
      exact hmade id (hid.resolve_right hlater)
  · intro id hid
    rw [CodeGraph.freshIds_add, List.mem_append, not_or] at hid
    rw [hkept' id hid.2, hkept id hid.1]

/-- A node at the next id. -/
theorem insertNode {node : ProgramNode} (hid : node.id = code.freshId.1) :
    Numbered 1 code arena code.freshId.2 (arena.insertNode node) where
  counter := rfl
  made id h := by
    have he : id = node.id := by simpa [CodeGraph.freshIds, hid] using h
    rw [Table.contains, Arena.insertNode, he, Table.get?_insert_self, Option.isSome_some]
  kept id h := by
    have hne : id ≠ node.id := by simpa [CodeGraph.freshIds, hid] using h
    rw [Arena.unmarked, Arena.insertNode, Table.get?_insert_of_ne _ _ hne]
    rfl

end Numbered

/-! ### Splitting -/

namespace Splitting

theorem numbered_extendChain (node : ProgramNode) (previous : NodeId) (categories : List Category)
    (s : Splitting) :
    Numbered categories.length s.code s.arena (extendChain node previous categories s).code
      (extendChain node previous categories s).arena := by
  induction categories generalizing previous s with
  | nil => exact .of_unmarked rfl
  | cons category rest ih =>
    have hfirst : Numbered 1 s.code s.arena s.code.freshId.2
        (s.arena.insertNode (part node s.code.freshId.1 category)) := .insertNode rfl
    rw [List.length_cons, Nat.add_comm]
    exact hfirst.trans (ih s.code.freshId.1 ⟨_, _, _⟩)

theorem numbered_splitNode (s : Splitting) (id : NodeId) :
    ∃ n, Numbered n s.code s.arena (s.splitNode id).code (s.splitNode id).arena := by
  unfold splitNode
  split
  · next node _ =>
    split
    · next first second rest _ =>
      have hmarked : Numbered 0 s.code s.arena s.code
          (s.arena.modify id fun n => n.markSensitive [first]) :=
        .of_unmarked (funext (s.arena.unmarked_modify id fun _ => rfl))
      exact ⟨_, hmarked.trans (numbered_extendChain node id (second :: rest)
        { s with arena := s.arena.modify id fun n => n.markSensitive [first] })⟩
    · exact ⟨0, .of_unmarked rfl⟩
  · exact ⟨0, .of_unmarked rfl⟩

theorem numbered_splitAll (s : Splitting) :
    ∃ n, Numbered n s.code s.arena s.splitAll.code s.splitAll.arena := by
  refine List.foldlRecOn (motive := fun t : Splitting =>
    ∃ n, Numbered n s.code s.arena t.code t.arena) _ _ ⟨0, .of_unmarked rfl⟩ ?_
  rintro t ⟨m, ht⟩ id -
  obtain ⟨n, hsplit⟩ := t.numbered_splitNode id
  exact ⟨m + n, ht.trans hsplit⟩

end Splitting

/-! ### Phases -/

namespace Session
variable {σ : Type}

/-- Whether a session comes from another by putting nodes at some ids, perhaps at none. -/
def Numbers (s t : Session) : Prop := ∃ n, Numbered n s.code s.state.arena t.code t.state.arena

theorem Numbers.trans {s t u : Session} (hst : s.Numbers t) (htu : t.Numbers u) : s.Numbers u := by
  obtain ⟨m, hst⟩ := hst
  obtain ⟨n, htu⟩ := htu
  exact ⟨m + n, hst.trans htu⟩

/-- What the phases do besides looking for patterns. -/
theorem allowsWork_numbered (c : SessionContext σ) : AllowsWork c Numbers Numbers where
  refl _ := ⟨0, .of_unmarked rfl⟩
  trans := Numbers.trans
  note _ _ _ := ⟨0, .of_unmarked rfl⟩
  mark s unit := ⟨0, .of_unmarked (by rw [BuildState.arena_markAnalyzed])⟩
  scopes s := ⟨0, .of_unmarked (by rw [BuildState.arena_initializeScopes])⟩
  build s services unit := by
    refine ⟨0, .of_unmarked ?_⟩
    let context : BuildContext σ :=
      { code := s.code, index := c.index, sources := c.sources, knowledge := c.knowledge
        deadline := c.deadline }
    exact ((Building.leaves_buildWithin stable_sameCode context (Building.maxDepth context)
      unit).state s.state services).code
  split s g := Splitting.numbered_splitAll { graph := g, arena := s.state.arena, code := s.code }
  stop h := h
  before := Numbers.trans

/-- Every step of an analysis, failed or not, takes some of the ids, perhaps none. -/
theorem allowed_numbered (c : SessionContext σ) : Allowed c Numbers Numbers where
  toAllowsWork := allowsWork_numbered c
  looking _ :=
    { allowsWork_numbered c with
      found := fun _ => ⟨0, .of_unmarked rfl⟩
      broken := fun _ => ⟨0, .of_unmarked rfl⟩ }
  script _ _ _ := ⟨0, .of_unmarked rfl⟩

/-- Over the phases of an analysis, failed or not, some ids are handed out, and a node is put at
each of them; of every other node stays what the exports say. Ids repeat only after all machine
words were handed out. Where no id in the exports of the units is above all ids of the code, and
there are words left, no node is lost, and an id that is handed out later is that of no node. -/
theorem runPhases_numbered (c : SessionContext σ) (manifest : Manifest) (profiles : ScriptProfiles)
    (phases : List Phase) (graph : Dot.Graph) (arena : Arena) (services : σ) :
    let code := CodeGraph.ofDot graph
    let after := ((runPhases c manifest profiles phases).run
      ({ code, state := { arena } }, services)).2.1
    ∃ n, Numbered n code arena after.code after.state.arena ∧
      (∀ m, (code.freshIds m).1.Nodup ↔ m ≤ 2 ^ 64) ∧
      ((∀ id ∈ arena.keys, ∃ known ∈ code.nodes.keys, id ≤ known) →
        (n + code.lastId < 2 ^ 64 →
          ∀ id ∈ arena.keys, after.state.arena.unmarked id = arena.unmarked id) ∧
        ∀ m, n + m + code.lastId < 2 ^ 64 →
          ∀ id ∈ (after.code.freshIds m).1, after.state.arena.contains id = false) := by
  intro code after
  obtain ⟨n, hafter⟩ := (leaves_runPhases (allowed_numbered c) manifest profiles phases).always
    { code, state := { arena } } services
  refine ⟨n, hafter, fun m => code.nodup_freshIds m, fun hbelow => ?_⟩
  have hcounted := CodeGraph.counted_ofDot graph
  constructor
  · intro hroom id hid
    exact hafter.kept id (CodeGraph.notMem_freshIds hcounted hbelow hroom hid)
  · intro m hroom id hid
    rw [hafter.counter] at hid
    have hall : (code.freshIds (n + m)).1 =
        (code.freshIds n).1 ++ ((code.freshIds n).2.freshIds m).1 :=
      congrArg Prod.fst (code.freshIds_add n m)
    -- it is none of the ids that were handed out before
    have hnodup : (code.freshIds (n + m)).1.Nodup :=
      (code.nodup_freshIds _).mpr (by unfold Text.wordMax; omega)
    rw [hall, List.nodup_append] at hnodup
    have hnew : id ∉ (code.freshIds n).1 := fun hold => hnodup.2.2 id hold id hid rfl
    rw [← Arena.isSome_unmarked, hafter.kept id hnew, Arena.isSome_unmarked, Bool.eq_false_iff]
    intro hknown
    have hid' : id ∈ arena.keys := (Table.contains_iff arena id).mp hknown
    apply CodeGraph.notMem_freshIds hcounted hbelow hroom hid'
    rw [hall]
    exact List.mem_append_right _ hid

end Session

/-! ### A node that is lost -/

/-- A store for which every function of the platform runs a command and makes a request. -/
def KnowledgeStore.wary : KnowledgeStore Unit where
  classify _ := pure .builtin
  sensitiveCall _ _ _ _ := pure [.executeCommand, .httpRequest]
  registerModule _ _ := pure false

namespace Sample

def warySession (p : Sample) : SessionContext Unit := { p.session with knowledge := .wary }

/-- The session after all phases. -/
def afterPhases (p : Sample) : Session :=
  ((Session.runPhases p.warySession {} [] Phase.all).run (p.start, ())).2.1

end Sample

namespace Session

/-- The export of `eval(x)`. -/
def evalExport : Dot.Graph :=
  (Dot.Graph.parse
    "digraph\x7b
      \"1\" [\"label\"=\"METHOD\" \"NAME\"=\":program\" \"FILENAME\"=\"package/index.js\"]
      \"2\" [\"label\"=\"CALL\" \"NAME\"=\"eval\" \"CODE\"=\"eval(x)\"]\x7d").toOption.getD {}

def evalOnce : Sample where
  code := .ofDot evalExport
  exports := ["digraph\x7b \"1\" -> \"2\" [\"label\"=\"CFG\"]\x7d"]

/-- The same code, but the export of the unit has a node more. -/
def evalThenMore : Sample where
  code := .ofDot evalExport
  exports := ["digraph\x7b \"1\" -> \"2\" -> \"3\" [\"label\"=\"CFG\"]\x7d"]

theorem computed_evalOnce :
    evalOnce.hasUnit 1 = true ∧ evalOnce.code.lastId = 2 ∧
    (∀ id ∈ evalOnce.read.2.keys, ∃ known ∈ evalOnce.code.nodes.keys, id ≤ known) ∧
    evalOnce.afterPhases.state.arena.contains 3 = true ∧
    evalOnce.afterPhases.state.arena.contains 4 = false := by
  decide +kernel

/-- One id is handed out, and the nodes of the export are still there. -/
theorem runPhases_numbered_evalOnce :
    Loaded evalOnce.code evalOnce.context.index.units evalOnce.read.2 ∧
    (∀ id ∈ evalOnce.read.2.keys, ∃ known ∈ evalOnce.code.nodes.keys, id ≤ known) ∧
    evalOnce.afterPhases.state.arena.contains 3 = true ∧
    ∀ id ∈ evalOnce.read.2.keys,
      evalOnce.afterPhases.state.arena.unmarked id = evalOnce.read.2.unmarked id := by
  obtain ⟨hunit, hlast, hbelow, hmade, hnone⟩ := computed_evalOnce
  have hcode : evalOnce.code = .ofDot evalExport := by rw [evalOnce]
  have hnumbered :=
    runPhases_numbered evalOnce.warySession {} [] Phase.all evalExport evalOnce.read.2 ()
  rw [← hcode] at hnumbered
  unfold Sample.afterPhases Sample.start at hmade hnone ⊢
  obtain ⟨n, hafter, -, hkept⟩ := hnumbered
  refine ⟨Sample.loaded hunit, hbelow, hmade, (hkept hbelow).1 ?_⟩
  -- a second id would have a node too
  have hone : n < 2 := by
    by_contra hmore
    have hsecond : 4 ∈ (evalOnce.code.freshIds n).1 := by
      rw [CodeGraph.freshIds_eq, hlast]
      exact List.mem_map.mpr ⟨1, List.mem_range.mpr (by omega), by decide⟩
    exact Bool.false_ne_true (hnone.symm.trans (hafter.made 4 hsecond))
  show n + evalOnce.code.lastId < 2 ^ 64
  rw [hlast]
  omega

theorem computed_evalThenMore :
    evalThenMore.hasUnit 1 = true ∧ evalThenMore.read.2.contains 3 = true ∧
    evalThenMore.code.freshId.1 = 3 ∧
    evalThenMore.afterPhases.state.arena.unmarked 3 ≠ evalThenMore.read.2.unmarked 3 ∧
    (CodeGraph.parse "digraph\x7b \"0\" \"18446744073709551615\"\x7d").toOption.map
      (fun code => code.freshId.1) = some 0 := by
  decide +kernel

/-- The next id is that of a node which only the export of a unit has, and splitting puts another
node in its place. The id after the greatest word is nought, whether there is such a node or not. -/
theorem split_loses_node :
    Loaded evalThenMore.code evalThenMore.context.index.units evalThenMore.read.2 ∧
    evalThenMore.read.2.contains 3 = true ∧ evalThenMore.code.freshId.1 = 3 ∧
    evalThenMore.afterPhases.state.arena.unmarked 3 ≠ evalThenMore.read.2.unmarked 3 ∧
    (CodeGraph.parse "digraph\x7b \"0\" \"18446744073709551615\"\x7d").toOption.map
      (fun code => code.freshId.1) = some 0 :=
  ⟨Sample.loaded computed_evalThenMore.1, computed_evalThenMore.2⟩

end Session

end PackageVet

import Mathlib.Data.List.Nodup
import PackageVet.Dot.Places
import PackageVet.Proofs.Dot.WellFormed

/-! The places of nodes.

The index of a graph has an id at a place exactly when the node with that id stands there
(`PlacedGraph.Placed`). A node that is touched keeps its place, and a new one gets the place behind
all others, so statements keep it so, and they make of the graph what they make of the plain one
(`addStatement_agrees`). In a graph that was read, a node that is looked up by its place is then the
one that going through all nodes finds (`exists_places_of_parse`). -/
namespace PackageVet

/-! ### Entries at a position -/

namespace Table
variable {κ ν : Type} [DecidableEq κ]

theorem put_of_notMem {key : κ} {entries : List (κ × ν)} (value : ν)
    (h : key ∉ entries.map Prod.fst) : put key value entries = entries ++ [(key, value)] := by
  induction entries with
  | nil => rfl
  | cons e rest ih =>
    obtain ⟨k, v⟩ := e
    rw [List.map_cons, List.mem_cons, not_or] at h
    simp [put, Ne.symm h.1, ih h.2]

theorem put_of_getElem? {key : κ} {value old : ν} {entries : List (κ × ν)} {i : Nat}
    (hnodup : (entries.map Prod.fst).Nodup) (h : entries[i]? = some (key, old)) :
    put key value entries = entries.set i (key, value) := by
  induction entries generalizing i with
  | nil => simp at h
  | cons e rest ih =>
    obtain ⟨k, v⟩ := e
    obtain ⟨hk, hrest⟩ := List.nodup_cons.mp hnodup
    cases i with
    | zero =>
      obtain rfl : k = key := by simpa using congrArg (Option.map Prod.fst) h
      simp [put]
    | succ i =>
      have hfound : rest[i]? = some (key, old) := by simpa using h
      have hne : k ≠ key := fun he =>
        hk (he ▸ List.mem_map.mpr ⟨_, List.mem_of_getElem? hfound, rfl⟩)
      simp [put, hne, ih hrest hfound]

end Table

namespace Dot

/-- A node that is mentioned before it is given attributes gets them all the same. -/
theorem Graph.addNode_touch (g : Graph) (id : String) (attributes : List (String × String)) :
    (g.touch id).addNode id attributes = g.addNode id attributes := by
  unfold touch
  split
  · rfl
  · next hnew =>
    have hnone : g.nodes.get? id = none := Option.not_isSome_iff_eq_none.mp hnew
    simp [addNode, attributes?, hnone, Table.insert_insert]

namespace PlacedGraph
variable {g : PlacedGraph} {id : String} {place : Nat}

/-- Whether the index says where each node stands. -/
structure Placed (g : PlacedGraph) : Prop where
  places : ∀ id place, g.places.get? id = some place ↔
    ∃ node, g.nodes[place]? = some node ∧ node.id = id

theorem getElem?_plain (g : PlacedGraph) (place : Nat) :
    g.plain.nodes.entries[place]? =
      (g.nodes[place]?).map fun node => (node.id, ⟨node.attributes⟩) := by
  simp [plain]

theorem getElem?_keys_plain (g : PlacedGraph) (place : Nat) :
    g.plain.nodes.keys[place]? = (g.nodes[place]?).map Node.id := by
  rw [Table.keys, List.getElem?_map, getElem?_plain, Option.map_map]
  rfl

theorem Placed.get?_places (h : g.Placed) :
    g.places.get? id = some place ↔ g.plain.nodes.keys[place]? = some id := by
  rw [h.places, getElem?_keys_plain, Option.map_eq_some_iff]

theorem Placed.nodup (h : g.Placed) : g.plain.nodes.keys.Nodup := by
  refine List.nodup_iff_getElem?_ne_getElem?.mpr fun i j hij hj hsame => ?_
  rw [List.getElem?_eq_getElem hj] at hsame
  have hi := h.get?_places.mpr hsame
  have hj := h.get?_places.mpr (List.getElem?_eq_getElem hj)
  rw [hi] at hj
  exact Nat.ne_of_lt hij (Option.some.inj hj)

theorem Placed.contains_iff (h : g.Placed) :
    g.plain.nodes.contains id = true ↔ ∃ place, g.places.get? id = some place := by
  rw [Table.contains_iff, List.mem_iff_getElem?]
  exact exists_congr fun place => h.get?_places.symm

/-- A node that is looked up by its place is the one that all nodes are gone through for. -/
theorem Placed.node?_eq (h : g.Placed) (id : String) :
    (g.node? id).map (fun node => (⟨node.attributes⟩ : Table String String)) =
      g.plain.attributes? id := by
  unfold node? Graph.attributes?
  cases hplace : g.places.get? id with
  | none =>
    have hnone : ¬ (g.plain.nodes.get? id).isSome := fun hsome => by
      obtain ⟨place, hplace'⟩ := h.contains_iff.mp hsome
      rw [hplace] at hplace'
      cases hplace'
    exact (Option.not_isSome_iff_eq_none.mp hnone).symm
  | some place =>
    obtain ⟨node, hnode, rfl⟩ := (h.places id place).mp hplace
    have hentry : g.plain.nodes.entries[place]? = some (node.id, ⟨node.attributes⟩) := by
      rw [getElem?_plain, hnode]
      rfl
    rw [(Table.get?_eq_some_iff h.nodup).mpr (List.mem_of_getElem? hentry)]
    simp [hnode]

/-! ### Touching a node -/

theorem placed_touch (h : g.Placed) (id : String) :
    (g.touch id).2.Placed ∧ (g.touch id).2.places.get? id = some (g.touch id).1 := by
  unfold touch
  cases hplace : g.places.get? id with
  | some place => exact ⟨h, hplace⟩
  | none =>
    refine ⟨⟨fun other place => ?_⟩, Table.get?_insert_self ..⟩
    dsimp only
    rw [Table.get?_insert, Array.getElem?_push]
    by_cases hend : place = g.nodes.size
    · -- nothing stood there before
      have hbefore : g.places.get? other ≠ some place := fun hother => by
        obtain ⟨node, hnode, -⟩ := (h.places other place).mp hother
        simp [hend] at hnode
      by_cases hid : other = id
      · simp [hid, hend]
      · simp only [hid, if_false, if_pos hend]
        refine iff_of_false hbefore ?_
        rintro ⟨node, ⟨⟩, hnode⟩
        exact hid hnode.symm
    · by_cases hid : other = id
      · have hbefore := (h.places id place).not.mp (by simp [hplace])
        simp only [hid, if_true, if_neg hend]
        exact iff_of_false (fun he => hend (Option.some.inj he).symm) hbefore
      · simp only [hid, if_false, if_neg hend]
        exact h.places other place

theorem plain_touch (h : g.Placed) (id : String) : (g.touch id).2.plain = g.plain.touch id := by
  unfold touch Graph.touch
  cases hplace : g.places.get? id with
  | some place => rw [if_pos (h.contains_iff.mpr ⟨place, hplace⟩)]
  | none =>
    have hnew : ¬ g.plain.nodes.contains id = true := fun hcontains => by
      obtain ⟨place, hplace'⟩ := h.contains_iff.mp hcontains
      rw [hplace] at hplace'
      cases hplace'
    have hput (known : Table String String) :
        g.plain.nodes.insert id known = ⟨g.plain.nodes.entries ++ [(id, known)]⟩ :=
      congrArg Table.mk (Table.put_of_notMem _ fun hmem => hnew ((Table.contains_iff ..).mpr hmem))
    rw [if_neg hnew, hput]
    simp [plain]

/-! ### Statements -/

theorem merge_eq (node : Node) (attributes : List (String × String)) :
    (⟨(node.merge attributes).attributes⟩ : Table String String) =
      attributes.foldl (fun table (key, value) => table.insert key value) ⟨node.attributes⟩ :=
  (List.foldl_hom (Table.mk (κ := String)) fun _ _ => rfl).symm

theorem addNode_eq (g : PlacedGraph) (id : String) (attributes : List (String × String)) :
    g.addNode id attributes =
      { (g.touch id).2 with
        nodes := (g.touch id).2.nodes.modify (g.touch id).1 fun node => node.merge attributes } :=
  rfl

theorem placed_modify (h : g.Placed) (place : Nat) (attributes : List (String × String)) :
    Placed { g with nodes := g.nodes.modify place fun node => node.merge attributes } where
  places other i := by
    refine (h.places other i).trans ?_
    dsimp only
    rw [Array.getElem?_modify]
    split
    · cases g.nodes[i]? with
      | none => simp
      | some node => simp [Node.merge]
    · rfl

theorem plain_modify (h : g.Placed) (hplace : g.places.get? id = some place)
    (attributes : List (String × String)) :
    plain { g with nodes := g.nodes.modify place fun node => node.merge attributes } =
      g.plain.addNode id attributes := by
  obtain ⟨node, hnode, rfl⟩ := (h.places id place).mp hplace
  have hentry : g.plain.nodes.entries[place]? = some (node.id, ⟨node.attributes⟩) := by
    rw [getElem?_plain, hnode]
    rfl
  have hknown : g.plain.attributes? node.id = some ⟨node.attributes⟩ :=
    (Table.get?_eq_some_iff h.nodup).mpr (List.mem_of_getElem? hentry)
  dsimp only [Graph.addNode]
  rw [hknown, Option.getD_some, ← merge_eq, Table.insert, Table.put_of_getElem? h.nodup hentry]
  refine Graph.ext (congrArg Table.mk (List.ext_getElem? fun i => ?_)) rfl
  refine (getElem?_plain _ i).trans ?_
  rw [Array.getElem?_modify, List.getElem?_set]
  split
  · next hi =>
    have hlt : place < g.plain.nodes.entries.length := (List.getElem?_eq_some_iff.mp hentry).1
    rw [if_pos hlt, ← hi, hnode]
    rfl
  · exact (getElem?_plain g i).symm

theorem placed_addNode (h : g.Placed) (id : String) (attributes : List (String × String)) :
    (g.addNode id attributes).Placed := by
  rw [addNode_eq]
  exact placed_modify (placed_touch h id).1 _ attributes

theorem plain_addNode (h : g.Placed) (id : String) (attributes : List (String × String)) :
    (g.addNode id attributes).plain = g.plain.addNode id attributes := by
  obtain ⟨htouched, hplace⟩ := placed_touch h id
  rw [addNode_eq, plain_modify htouched hplace, plain_touch h, Graph.addNode_touch]

theorem placed_addEdge (h : g.Placed) (source target : String)
    (attributes : List (String × String)) : (g.addEdge source target attributes).Placed :=
  ⟨(placed_touch (placed_touch h source).1 target).1.places⟩

theorem plain_addEdge (h : g.Placed) (source target : String)
    (attributes : List (String × String)) :
    (g.addEdge source target attributes).plain = g.plain.addEdge source target attributes := by
  have htouched : ((g.touch source).2.touch target).2.plain =
      (g.plain.touch source).touch target := by
    rw [plain_touch (placed_touch h source).1, plain_touch h]
  unfold Graph.addEdge
  rw [← htouched]
  rfl

theorem addChain_agrees (h : g.Placed) (attributes : List (String × String)) (ids : List String) :
    (g.addChain attributes ids).Placed ∧
      (g.addChain attributes ids).plain = g.plain.addChain attributes ids := by
  fun_induction addChain g attributes ids with
  | case1 g source target rest ih =>
    rw [Graph.addChain, ← plain_addEdge h]
    exact ih (placed_addEdge h source target attributes)
  | case2 g ids hshort =>
    refine ⟨h, ?_⟩
    rw [Graph.addChain]
    exact hshort

/-- **A statement makes of a graph with places what it makes of the plain one.** -/
theorem addStatement_agrees (h : g.Placed) (ids : List String)
    (attributes : List (String × String)) :
    (g.addStatement ids attributes).Placed ∧
      (g.addStatement ids attributes).plain = g.plain.addStatement ids attributes := by
  rcases ids with _ | ⟨first, _ | ⟨second, more⟩⟩
  · exact addChain_agrees h attributes []
  · exact ⟨placed_addNode h first attributes, plain_addNode h first attributes⟩
  · exact addChain_agrees h attributes (first :: second :: more)

/-! ### Reading -/

/-- The graph of some statements, one after another. -/
def ofContents (contents : List Content) : PlacedGraph :=
  contents.foldl (fun g c => g.addStatement c.ids c.attributes) {}

theorem ofContents_agrees (contents : List Content) :
    (ofContents contents).Placed ∧ (ofContents contents).plain = graphOf contents := by
  induction contents using List.reverseRecOn with
  | nil => exact ⟨⟨fun id place => by simp [ofContents, Table.get?, Table.find?]⟩, rfl⟩
  | append_singleton contents c ih =>
    obtain ⟨hplaced, hplain⟩ := addStatement_agrees ih.1 c.ids c.attributes
    rw [graphOf_concat, ← ih.2]
    unfold ofContents at hplaced hplain ⊢
    rw [List.foldl_concat]
    exact ⟨hplaced, hplain⟩

/-- **A graph that was read can be kept with the places of its nodes**, and looking a node up by its
place gives what the graph says of it. -/
theorem exists_places_of_parse {text : String} {g : Graph} (h : Graph.parse text = .ok g) :
    ∃ contents, (ofContents contents).plain = g ∧ ∀ id,
      ((ofContents contents).node? id).map (fun node => ⟨node.attributes⟩) = g.attributes? id := by
  obtain ⟨contents, rfl⟩ := exists_contents_of_parse h
  obtain ⟨hplaced, hplain⟩ := ofContents_agrees contents
  exact ⟨contents, hplain, fun id => hplain ▸ hplaced.node?_eq id⟩

end PlacedGraph

end Dot

end PackageVet

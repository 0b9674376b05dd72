import PackageVet.Proofs.Dot.Document

/-! Graphs that were read are well formed.

Whatever stands in a text that can be read, its graph is that of some statements
(`exists_contents_of_parse`), and the graph of statements is well formed: each node and each
attribute of a node appears once, a node is found by its id, and an edge has both its ends
(`wellFormed_graphOf`). -/
namespace PackageVet.Dot
namespace Graph

/-- What a reader of exports relies on. -/
structure WellFormed (g : Graph) : Prop where
  /-- No two nodes have the same id. -/
  ids : g.nodes.keys.Nodup
  /-- Looking an id up gives the node of that id, if there is one. -/
  lookup : ∀ id attributes, g.attributes? id = some attributes ↔ (id, attributes) ∈ g.nodes.entries
  /-- Both ends of an edge are nodes. -/
  ends : ∀ e ∈ g.edges, e.source ∈ g.nodes.keys ∧ e.target ∈ g.nodes.keys
  /-- No node has two attributes with the same key. -/
  keys : ∀ id attributes, (id, attributes) ∈ g.nodes.entries → attributes.keys.Nodup

end Graph

theorem nodup_keys_settled (attributes : List (String × String)) :
    (settled attributes).keys.Nodup := by
  rw [settled, Table.keys_ofKeys]
  exact nodup_eraseDups _

/-- Neighbours in a statement are among its names. -/
theorem Content.mem_ids_of_edge {c : Content} {e : Edge} (h : e ∈ c.edges) :
    e.source ∈ c.ids ∧ e.target ∈ c.ids := by
  obtain ⟨⟨source, target⟩, hends, rfl⟩ := List.mem_map.mp h
  obtain ⟨hsource, htarget⟩ := List.of_mem_zip hends
  exact ⟨hsource, List.mem_of_mem_tail htarget⟩

theorem wellFormed_graphOf (contents : List Content) : (graphOf contents).WellFormed := by
  have hkeys : (graphOf contents).nodes.keys = (contents.flatMap Content.ids).eraseDups :=
    Table.keys_ofKeys ..
  have hids : (graphOf contents).nodes.keys.Nodup := hkeys ▸ nodup_eraseDups _
  refine ⟨hids, fun id attributes => Table.get?_eq_some_iff hids, fun e he => ?_,
    fun id attributes hmem => ?_⟩
  · obtain ⟨c, hc, he⟩ := List.mem_flatMap.mp he
    have hmem (id : String) (hid : id ∈ c.ids) : id ∈ (graphOf contents).nodes.keys := by
      rw [hkeys, List.mem_eraseDups]
      exact List.mem_flatMap.mpr ⟨c, hc, hid⟩
    exact (Content.mem_ids_of_edge he).imp (hmem _) (hmem _)
  · obtain ⟨other, -, heq⟩ := List.mem_map.mp hmem
    cases heq
    exact nodup_keys_settled _

/-- A graph that was read is the graph of some statements. -/
theorem exists_contents_of_parse {text : String} {g : Graph} (h : Graph.parse text = .ok g) :
    ∃ contents, g = graphOf contents := by
  refine Graph.parse_induction (P := fun g => ∃ contents, g = graphOf contents) ⟨[], rfl⟩ ?_ h
  rintro g ids attributes ⟨contents, rfl⟩
  exact ⟨contents ++ [⟨ids, attributes⟩], (graphOf_concat contents ⟨ids, attributes⟩).symm⟩

/-- **Every graph that was read is well formed**, whatever characters, comments, labels, suffixes
and blocks its text is made of. -/
theorem wellFormed_of_parse {text : String} {g : Graph} (h : Graph.parse text = .ok g) :
    g.WellFormed := by
  obtain ⟨contents, rfl⟩ := exists_contents_of_parse h
  exact wellFormed_graphOf contents

/-- An edge from a node with a suffix, a label in angle brackets, and a node that is given an
attribute twice in a block after a comment. -/
def mixedText : String := "graph\x7b1:p--2[l=<a<b>>]\x7b/*\"*/1[k=x]1[k=y]\x7d\x7d"

def mixedGraph : Graph where
  nodes := ⟨[("1", ⟨[("k", "y")]⟩), ("2", {})]⟩
  edges := [⟨"1", "2", [("l", "a<b>")]⟩]

theorem wellFormed_of_parse_mixed :
    Graph.parse mixedText = .ok mixedGraph ∧ mixedGraph.WellFormed := by
  have hparse : Graph.parse mixedText = .ok mixedGraph := by decide +kernel
  exact ⟨hparse, wellFormed_of_parse hparse⟩

end PackageVet.Dot

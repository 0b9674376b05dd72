import PackageVet.Proofs.Matching.Matches
import PackageVet.Proofs.Reduced.Exact
import PackageVet.Proofs.Reduced.Split

/-! Matches in a reduced graph as occurrences in the graph that was reduced.

A pattern occurs in a behaviour graph at sensitive nodes of its categories that have a way for each
triple (`Occurs`), and these are the matches in the reduced graph (`fits_splitAll`). Nodes that a
match leaves out lie on walks for its triples and are not sensitive (`passes_of_mem_elided`), so
every line that it names is the line of a node that it maps or of one that it passes. -/
namespace PackageVet

/-! ### Occurrences -/

/-- Whether a pattern occurs in a graph at these nodes. -/
structure Pattern.Occurs (p : Pattern) (g : BehaviorGraph) (arena : Arena)
    (node : Category → NodeId) : Prop where
  sensitive : ∀ c ∈ p.categories, g.SensitiveAs arena (node c) c
  way : ∀ t ∈ p.triples, Relation.TransGen (g.Leads t.kind) (node t.head) (node t.tail)

namespace Pattern
variable {p : Pattern} {g : BehaviorGraph} {arena : Arena} {node : Category → NodeId}

theorem fits_reduced (hp : p.WellFormed) (hends : ∀ t ∈ p.triples, t.head ≠ t.tail) :
    p.Fits (g.reduced arena) node ↔
      (∀ c ∈ p.categories, g.categoryOf? arena (node c) = some c) ∧
        ∀ t ∈ p.triples, Relation.TransGen (g.Leads t.kind) (node t.head) (node t.tail) := by
  have hcategory : (∀ c ∈ p.categories, (g.reduced arena).category? (node c) = some c) ↔
      ∀ c ∈ p.categories, g.categoryOf? arena (node c) = some c := by
    simp only [BehaviorGraph.category?_reduced]
  -- nodes of different categories differ, and between them the two graphs have the same ways
  have hways (h : ∀ c ∈ p.categories, g.categoryOf? arena (node c) = some c) (t : Triple)
      (ht : t ∈ p.triples) :
      Relation.TransGen ((g.reduced arena).Leads t.kind) (node t.head) (node t.tail) ↔
        Relation.TransGen (g.Leads t.kind) (node t.head) (node t.tail) := by
    have hhead := h t.head (hp.ends t ht).1
    have htail := h t.tail (hp.ends t ht).2
    refine BehaviorGraph.way_reduced (by simp [hhead]) (by simp [htail]) fun he => hends t ht ?_
    rw [he, htail] at hhead
    exact (Option.some.inj hhead).symm
  constructor
  · rintro ⟨hc, hw⟩
    have hc := hcategory.mp hc
    exact ⟨hc, fun t ht => (hways hc t ht).mp (hw t ht)⟩
  · rintro ⟨hc, hw⟩
    exact ⟨hcategory.mpr hc, fun t ht => (hways hc t ht).mpr (hw t ht)⟩

theorem fits_splitAll (s : Splitting) (hp : p.WellFormed)
    (hends : ∀ t ∈ p.triples, t.head ≠ t.tail) :
    p.Fits (s.splitAll.graph.reduced s.splitAll.arena) node ↔
      p.Occurs s.splitAll.graph s.splitAll.arena node := by
  rw [fits_reduced hp hends]
  simp only [Splitting.categoryOf?_splitAll]
  exact ⟨fun ⟨hs, hw⟩ => ⟨hs, hw⟩, fun ⟨hs, hw⟩ => ⟨hs, hw⟩⟩

/-- **The matches of a pattern in the reduced graph are, each once, its occurrences in the graph
whose nodes were split.** The triples have to join different categories: a way from a node back to
itself is not kept in the reduced graph. -/
theorem findMatches_occurrences {σ : Type} (s : Splitting) (p : Pattern) (hp : p.WellFormed)
    (hends : ∀ t ∈ p.triples, t.head ≠ t.tail) :
    ∃ r found,
      (∀ x : σ, (s.splitAll.graph.reduce s.splitAll.arena .unlimited).run x = (.ok r, x)) ∧
      (∀ x : σ, (p.findMatches r .unlimited).run x = (.ok found, x)) ∧ (found.map Mapping.nodes).Nodup ∧
      ∀ nodes, nodes ∈ found.map Mapping.nodes ↔
        ∃ node, nodes = p.assign node ∧ p.Occurs s.splitAll.graph s.splitAll.arena node := by
  have hbuilt := (BehaviorGraph.reduced_sound s.splitAll.graph s.splitAll.arena).built
  refine ⟨s.splitAll.graph.reduced s.splitAll.arena, _, fun x => ?_, fun x => ?_,
    nodup_matchesIn hp hbuilt, fun nodes => ?_⟩
  · rw [BehaviorGraph.reduce_unlimited]
    rfl
  · rw [findMatches_unlimited]
    rfl
  · rw [mem_matchesIn hp hbuilt]
    simp only [fits_splitAll s hp hends]

end Pattern

/-- Data that is read from a file and encoded at one call goes over another node into a request. -/
def encodeAndSend : Splitting where
  graph :=
    { entrance := 1
      nodes := [1, 2, 3]
      edges := ⟨[((1, 2), ["DDG"]), ((2, 3), ["CFG", "DDG"]), ((3, 1), ["CFG"])]⟩ }
  arena := ⟨[
    (1, { id := 1, unit := 0, kind := "CALL", line := 4, file := "index.js",
          sensitivity := some [.readFile, .encode] }),
    (2, { id := 2, unit := 0, kind := "IDENTIFIER", line := 5, file := "index.js" }),
    (3, { id := 3, unit := 0, kind := "CALL", line := 6, file := "index.js",
          sensitivity := some [.httpRequest] })]⟩
  code := { lastId := 3 }

/-- A file is read and its data is part of a request. -/
def readThenRequest : Pattern :=
  .ofKey "steal" "send the data of a file"
    (.pair ⟨.readFile, .data, .httpRequest⟩) []

theorem findMatches_occurrences_encodeAndSend :
    readThenRequest.WellFormed ∧ (∀ t ∈ readThenRequest.triples, t.head ≠ t.tail) ∧
      ∃ node, [(.readFile, 1), (.httpRequest, 3)] =
          readThenRequest.assign node ∧
        readThenRequest.Occurs encodeAndSend.splitAll.graph encodeAndSend.splitAll.arena node := by
  have hp : readThenRequest.WellFormed := Pattern.wellFormed_ofKey ..
  have hends : ∀ t ∈ readThenRequest.triples, t.head ≠ t.tail := by decide
  obtain ⟨r, found, hr, hfound, -, hmem⟩ :=
    Pattern.findMatches_occurrences (σ := Unit) encodeAndSend readThenRequest hp hends
  cases BehaviorGraph.eq_reduced_of_reduce (hr ())
  cases Pattern.eq_matchesIn_of_findMatches (hfound ())
  exact ⟨hp, hends, (hmem _).mp (by decide)⟩

/-! ### Nodes left out -/

namespace BehaviorGraph
variable {g : BehaviorGraph} {arena : Arena} {s t id : NodeId} {kind : EdgeKind}
  {between : List NodeId}

/-- A node that an edge leaves out lies on a route of the edge's kind. -/
theorem Linked.route_through {category? : NodeId → Option Category} {e : ReducedEdge}
    (h : g.Linked category? s t e) (hid : id ∈ e.elided) :
    ∃ between, g.Route category? e.kind s between t ∧ id ∈ between := by
  cases h with
  | data _ left => exact left id hid
  | control route _ => exact ⟨_, route, hid⟩

theorem route_through_elided (hl : (g.reduced arena).Leads kind s t)
    (hid : id ∈ (g.reduced arena).elided s t) :
    ∃ between, g.Route (g.categoryOf? arena) kind s between t ∧ id ∈ between := by
  obtain ⟨e, he, hk⟩ := hl
  obtain ⟨-, -, -, hlinked⟩ := (reduced_sound g arena).edge s t e he
  rw [ReducedGraph.elided, he] at hid
  obtain ⟨between, hroute, hmem⟩ := hlinked.route_through hid
  exact ⟨between, hroute.of_admits hk, hmem⟩

/-- What a walk in the reduced graph leaves out lies on a walk in the graph. -/
theorem walk_through_elided (hw : Walk ((g.reduced arena).Leads kind) s between t)
    (hid : id ∈ (g.reduced arena).elidedAlong s between t) :
    g.categoryOf? arena id = none ∧ ∃ nodes, Walk (g.Leads kind) s nodes t ∧ id ∈ nodes := by
  induction hw with
  | edge hl =>
    obtain ⟨nodes, hroute, hmem⟩ := route_through_elided hl hid
    exact ⟨hroute.plain id hmem, nodes, hroute.walk, hmem⟩
  | step hl hw ih =>
    rcases List.mem_append.mp hid with hfirst | hrest
    · obtain ⟨nodes, hroute, hmem⟩ := route_through_elided hl hfirst
      obtain ⟨after, hafter⟩ := Walk.of_way (way_of_way_reduced hw.way)
      exact ⟨hroute.plain id hmem, _, hroute.walk.append hafter, List.mem_append_left _ hmem⟩
    · obtain ⟨hplain, nodes, hwalk, hmem⟩ := ih hrest
      obtain ⟨first, hfirst⟩ := route_of_leads_reduced hl
      exact ⟨hplain, _, hfirst.walk.append hwalk,
        List.mem_append_right _ (List.mem_cons_of_mem _ hmem)⟩

end BehaviorGraph

/-! ### Lines -/

/-- Whether a node is known to stand at a line of a file. -/
def ProgramNode.StandsAt (node : ProgramNode) (file : String) (line : Nat) : Prop :=
  node.file = file ∧ node.line = line ∧ file ≠ "" ∧ line ≠ unknownPosition

namespace Pattern
variable {p : Pattern} {m : Mapping} {arena : Arena} {file : String} {line : Nat}

/-- Whether a match passes a node that is not sensitive, on a walk for one of the triples. -/
def Passes (p : Pattern) (g : BehaviorGraph) (arena : Arena) (m : Mapping) (id : NodeId) : Prop :=
  (∀ c, ¬ g.SensitiveAs arena id c) ∧
    ∃ t ∈ p.triples, ∃ head tail nodes, m.node? t.head = some head ∧ m.node? t.tail = some tail ∧
      Walk (g.Leads t.kind) head nodes tail ∧ id ∈ nodes

theorem passes_of_mem_elided (s : Splitting)
    (hm : m ∈ p.matchesIn (s.splitAll.graph.reduced s.splitAll.arena)) {id : NodeId}
    (hid : id ∈ m.elided) : p.Passes s.splitAll.graph s.splitAll.arena m id := by
  obtain ⟨t, ht, head, tail, w, hhead, htail, hreach, hw⟩ := mem_elided hm hid
  obtain ⟨between, hwalk, rfl⟩ := ReducedGraph.reachable?_walk hreach
  obtain ⟨hplain, nodes, hnodes, hmem⟩ := BehaviorGraph.walk_through_elided hwalk hw
  refine ⟨fun c hc => ?_, t, ht, head, tail, nodes, hhead, htail, hnodes, hmem⟩
  rw [← Splitting.categoryOf?_splitAll, hplain] at hc
  cases hc

/-- Adds the line of a node, if it is known. -/
def addLine (lines : Locality) (node : ProgramNode) : Locality :=
  if node.line = unknownPosition ∨ node.file = "" then lines
  else Sorted.upsert node.file (fun known => Sorted.insert node.line (known.getD [])) lines

theorem hasAt_addLine {lines : Locality} {node : ProgramNode} :
    Sorted.HasAt (addLine lines node) file line ↔
      node.StandsAt file line ∨ Sorted.HasAt lines file line := by
  unfold addLine
  split
  · next hunknown =>
    have hnot : ¬ node.StandsAt file line := by
      rintro ⟨rfl, rfl, hfile, hline⟩
      exact hunknown.elim hline hfile
    exact (or_iff_right hnot).symm
  · next hknown =>
    have hstands : node.StandsAt file line ↔ file = node.file ∧ line = node.line := by
      constructor
      · rintro ⟨rfl, rfl, -, -⟩
        exact ⟨rfl, rfl⟩
      · rintro ⟨rfl, rfl⟩
        exact ⟨rfl, rfl, fun he => hknown (.inr he), fun he => hknown (.inl he)⟩
    rw [Sorted.hasAt_upsert_insert, hstands]

theorem hasAt_foldl_addLine (nodes : List ProgramNode) (lines : Locality) :
    Sorted.HasAt (nodes.foldl addLine lines) file line ↔
      (∃ node ∈ nodes, node.StandsAt file line) ∨ Sorted.HasAt lines file line := by
  induction nodes generalizing lines with
  | nil => simp
  | cons node rest ih =>
    rw [List.foldl_cons, ih, hasAt_addLine, List.exists_mem_cons_iff, or_assoc]
    exact or_left_comm

/-- The lines of a match are those where its nodes stand. -/
theorem hasAt_locality {r : ReducedGraph} (hm : m ∈ p.matchesIn r) :
    Sorted.HasAt (p.locality m arena) file line ↔
      ∃ id node, (id ∈ m.nodes.map Prod.snd ∨ id ∈ m.elided) ∧ arena.get? id = some node ∧
        node.StandsAt file line := by
  have helided : (if p.isSingle then [] else m.elided) = m.elided := by
    split
    · next h => exact (elided_eq_nil_of_isSingle hm h).symm
    · rfl
  have hnone : ¬ Sorted.HasAt ([] : Locality) file line := by
    rintro ⟨_, hmem, -⟩
    cases hmem
  rw [locality, helided]
  refine (hasAt_foldl_addLine _ _).trans ((or_iff_left hnone).trans ?_)
  simp only [List.mem_filterMap, List.mem_append]
  grind

/-- **Every line of a finding is justified by the graph.** The nodes left out are not sensitive and
lie on walks for the triples; the lines are those where a mapped node stands or a node left out. -/
theorem locality_justified {σ : Type} (s : Splitting) (p : Pattern)
    (reducing searching : Deadline σ) (x x' y y' : σ) (r : ReducedGraph) (found : List Mapping)
    (hr : (s.splitAll.graph.reduce s.splitAll.arena reducing).run x = (.ok r, x'))
    (hfound : (p.findMatches r searching).run y = (.ok found, y')) (m : Mapping) (hm : m ∈ found) :
    (∀ id ∈ m.elided, p.Passes s.splitAll.graph s.splitAll.arena m id) ∧
      ∀ file line, Sorted.HasAt (p.locality m s.splitAll.arena) file line ↔
        ∃ id node, (id ∈ m.nodes.map Prod.snd ∨
            id ∈ m.elided ∧ p.Passes s.splitAll.graph s.splitAll.arena m id) ∧
          s.splitAll.arena.get? id = some node ∧ node.StandsAt file line := by
  have hmatch : m ∈ p.matchesIn (s.splitAll.graph.reduced s.splitAll.arena) := by
    rwa [← BehaviorGraph.eq_reduced_of_reduce hr, ← eq_matchesIn_of_findMatches hfound]
  have hpasses (id : NodeId) (hid : id ∈ m.elided) := passes_of_mem_elided s hmatch hid
  refine ⟨hpasses, fun file line => (hasAt_locality hmatch).trans ?_⟩
  have hboth (id : NodeId) : id ∈ m.elided ↔
      id ∈ m.elided ∧ p.Passes s.splitAll.graph s.splitAll.arena m id :=
    ⟨fun hid => ⟨hid, hpasses id hid⟩, And.left⟩
  refine exists_congr fun id => exists_congr fun node => ?_
  rw [← hboth]

end Pattern

theorem locality_justified_encodeAndSend :
    Sorted.HasAt (readThenRequest.locality ⟨[(.readFile, 1), (.httpRequest, 3)], [2]⟩
      encodeAndSend.splitAll.arena) "index.js" 5 ∧
    readThenRequest.Passes encodeAndSend.splitAll.graph encodeAndSend.splitAll.arena
      ⟨[(.readFile, 1), (.httpRequest, 3)], [2]⟩ 2 := by
  have h := Pattern.locality_justified encodeAndSend readThenRequest .unlimited .unlimited () () ()
    () (encodeAndSend.splitAll.graph.reduced encodeAndSend.splitAll.arena)
    (readThenRequest.matchesIn _) (by rw [BehaviorGraph.reduce_unlimited]; rfl)
    (by rw [Pattern.findMatches_unlimited]; rfl) ⟨[(.readFile, 1), (.httpRequest, 3)], [2]⟩
    (by decide)
  refine ⟨(h.2 "index.js" 5).mpr ⟨2, _, .inr ⟨by decide, h.1 2 (by decide)⟩, rfl, ?_⟩,
    h.1 2 (by decide)⟩
  exact ⟨rfl, rfl, by decide, by decide⟩

end PackageVet

import Mathlib.Data.List.Lex
import PackageVet.Proofs.Matching.Matches

/-! Matches in full, and the order in which they are found.

A match is a choice of nodes that fits, together with what the ways of its triples leave out, each
node once and in the order of the triples (`mem_matchesIn_iff`). The search goes through the
choices as a counter does, with the last category moving first: one match comes before another if
the first category that tells them apart has an earlier node in the graph
(`pairwise_matchesIn`). -/
namespace PackageVet

/-! ### Merged ids -/

/-- Ids are added in the order in which they first come. -/
theorem mergeIds_eq (known ids : List NodeId) :
    mergeIds known ids = known ++ (ids.removeAll known).eraseDups := by
  induction ids generalizing known with
  | nil => simp [mergeIds, List.removeAll]
  | cons id rest ih =>
    show mergeIds (if id ∈ known then known else known ++ [id]) rest = _
    rw [ih]
    by_cases hid : id ∈ known
    · simp [hid, List.removeAll]
    · simp [hid, List.removeAll, List.eraseDups_cons, List.filter_filter, Bool.and_comm,
        beq_eq_decide]

theorem mergeIds_mergeIds (known ids more : List NodeId) :
    mergeIds (mergeIds known ids) more = mergeIds known (ids ++ more) :=
  (List.foldl_append ..).symm

/-! ### Choices in order -/

/-- Every choice begins with what was chosen before. -/
theorem prefix_of_mem_assignments {candidates : List (List NodeId)} {before assigned : List NodeId}
    (h : assigned ∈ assignments candidates before) : before <+: assigned := by
  induction candidates generalizing before with
  | nil =>
    obtain rfl : assigned = before := by simpa [assignments] using h
    exact List.prefix_rfl
  | cons ids rest ih =>
    obtain ⟨id, -, hid⟩ := List.mem_flatMap.mp h
    exact (List.prefix_append before [id]).trans (ih hid)

/-- Candidates that stand in an order are chosen in the order of words. -/
theorem pairwise_assignments {lt : NodeId → NodeId → Prop} {candidates : List (List NodeId)}
    (h : ∀ ids ∈ candidates, ids.Pairwise lt) (before : List NodeId) :
    (assignments candidates before).Pairwise (List.Lex lt) := by
  induction candidates generalizing before with
  | nil => exact List.pairwise_singleton ..
  | cons ids rest ih =>
    obtain ⟨hids, hrest⟩ := List.forall_mem_cons.mp h
    refine List.pairwise_flatMap.mpr ⟨fun id _ => ih hrest (before ++ [id]), ?_⟩
    -- two choices with different nodes at this place
    refine (hids.filter _).imp fun {id other} hlt => ?_
    intro a ha b hb
    obtain ⟨c, rfl⟩ := prefix_of_mem_assignments ha
    obtain ⟨d, rfl⟩ := prefix_of_mem_assignments hb
    rw [List.append_assoc, List.append_assoc]
    exact List.Lex.append_left lt (.rel hlt) before

namespace ReducedGraph
variable {r : ReducedGraph}

/-- Whether a node comes before another in the order of the graph. -/
def Before (r : ReducedGraph) (a b : NodeId) : Prop :=
  r.nodes.keys.idxOf a < r.nodes.keys.idxOf b

instance (r : ReducedGraph) (a b : NodeId) : Decidable (r.Before a b) :=
  inferInstanceAs (Decidable (r.nodes.keys.idxOf a < r.nodes.keys.idxOf b))

theorem Built.pairwise_keys (h : r.Built) : r.nodes.keys.Pairwise r.Before := by
  rw [List.pairwise_iff_getElem]
  intro i j hi hj hij
  unfold Before
  rwa [h.nodup_keys.idxOf_getElem i hi, h.nodup_keys.idxOf_getElem j hj]

theorem Built.pairwise_nodesWith (h : r.Built) (c : Category) :
    (r.nodesWith c).Pairwise r.Before :=
  h.pairwise_keys.sublist (List.filter_sublist.map Prod.fst)

end ReducedGraph

/-- The nodes of a match, in the order of the categories. -/
def Mapping.targets (m : Mapping) : List NodeId := m.nodes.map Prod.snd

namespace Pattern
variable {p : Pattern} {r : ReducedGraph} {node : Category → NodeId}

/-! ### What a match leaves out -/

/-- What the way of a triple leaves out. -/
def witness (r : ReducedGraph) (node : Category → NodeId) (t : Triple) : List NodeId :=
  (r.reachable? (node t.head) (node t.tail) t.kind).getD []

/-- What the ways of all triples leave out, in their order and each node once. -/
def leftOut (p : Pattern) (r : ReducedGraph) (node : Category → NodeId) : List NodeId :=
  (p.triples.flatMap (witness r node)).eraseDups

theorem foldlM_joinWay {nodes : List (Category × NodeId)} {w : Triple → List NodeId}
    {triples : List Triple} (h : ∀ t ∈ triples, wayOf? r nodes t = some (w t))
    (known : List NodeId) :
    triples.foldlM (joinWay r nodes) known = some (mergeIds known (triples.flatMap w)) := by
  induction triples generalizing known with
  | nil => rfl
  | cons t rest ih =>
    obtain ⟨ht, hrest⟩ := List.forall_mem_cons.mp h
    have hstep : joinWay r nodes known t = some (mergeIds known (w t)) := by
      simp [joinWay, ht]
    rw [List.foldlM_cons, hstep, Option.bind_eq_bind, Option.bind_some, ih hrest,
      mergeIds_mergeIds, List.flatMap_cons]

theorem Fits.wayOf? (hp : p.WellFormed) (h : p.Fits r node) {t : Triple} (ht : t ∈ p.triples) :
    Pattern.wayOf? r (p.assign node) t = some (witness r node t) := by
  obtain ⟨hhead, htail⟩ := hp.ends t ht
  obtain ⟨w, hw⟩ := Option.isSome_iff_exists.mp (ReducedGraph.isSome_reachable?.mpr (h.way t ht))
  refine wayOf?_eq_some.mpr ⟨_, _, lookup_assign hhead, lookup_assign htail, ?_⟩
  rw [witness, hw, Option.getD_some]

theorem Fits.satisfied? (hp : p.WellFormed) (h : p.Fits r node) :
    p.satisfied? r (p.assign node) = some (p.leftOut r node) := by
  refine (foldlM_joinWay (fun t ht => h.wayOf? hp ht) []).trans ?_
  rw [mergeIds_eq]
  simp [leftOut, List.removeAll]

/-- A match is a choice of nodes that fits and what its triples leave out. -/
theorem mem_matchesIn_iff (hp : p.WellFormed) (hr : r.Built) {m : Mapping} :
    m ∈ p.matchesIn r ↔
      ∃ node, p.Fits r node ∧ m.nodes = p.assign node ∧ m.elided = p.leftOut r node := by
  constructor
  · intro hm
    obtain ⟨node, hnodes, hfits⟩ := (mem_matchesIn hp hr).mp (List.mem_map_of_mem hm)
    have helided := satisfied?_of_mem_matchesIn hm
    rw [hnodes, hfits.satisfied? hp] at helided
    exact ⟨node, hfits, hnodes, (Option.some.inj helided).symm⟩
  · rintro ⟨node, hfits, hnodes, helided⟩
    obtain ⟨found, hfound, hsame⟩ :=
      List.mem_map.mp ((mem_matchesIn hp hr).mpr ⟨node, rfl, hfits⟩)
    -- the match with these nodes leaves out just this
    have hleft := satisfied?_of_mem_matchesIn hfound
    rw [hsame, hfits.satisfied? hp] at hleft
    have heq : m = found := by
      cases m
      cases found
      simp_all
    exact heq ▸ hfound

/-! ### Matches in order -/

theorem pairwise_matchesIn (hp : p.WellFormed) (hr : r.Built) :
    ((p.matchesIn r).map Mapping.targets).Pairwise (List.Lex r.Before) := by
  have hordered : (assignments (p.candidates r) []).Pairwise (List.Lex r.Before) := by
    apply pairwise_assignments
    intro ids hids
    obtain ⟨c, -, rfl⟩ := List.mem_map.mp hids
    exact hr.pairwise_nodesWith c
  have htargets {assigned : List NodeId} {m : Mapping}
      (hassigned : assigned ∈ assignments (p.candidates r) [])
      (hm : p.mapping? r assigned = some m) : m.targets = assigned := by
    obtain ⟨elided, -, rfl⟩ := Option.map_eq_some_iff.mp hm
    exact map_snd_zip_assigned hp hassigned
  rw [matchesIn_eq]
  refine List.pairwise_map.mpr (List.pairwise_filterMap.mpr ?_)
  refine hordered.imp_of_mem fun {a b} ha hb hlt => ?_
  intro m hm m' hm'
  rw [htargets ha hm, htargets hb hm']
  exact hlt

/-- The nodes of a match differ. -/
theorem nodup_targets (hp : p.WellFormed) (hr : r.Built) {m : Mapping} (h : m ∈ p.matchesIn r) :
    m.targets.Nodup := by
  obtain ⟨node, hnodes, hfits⟩ := (mem_matchesIn hp hr).mp (List.mem_map_of_mem h)
  have htargets : m.targets = p.categories.map node := by
    simp [Mapping.targets, hnodes, assign]
  rw [htargets]
  exact hfits.nodup hp

/-- **A search without a limit gives every match of a pattern once.** A match has a node of each
category with a way for each triple, and leaves out what the search for these ways left out. The
matches stand in the order of words, by the order of the nodes in the graph. -/
theorem findMatches_enumerates {σ : Type} (behavior description : String) (key : PatternKey)
    (others : List Triple) (r : ReducedGraph) (hr : r.Built) :
    let p := ofKey behavior description key others
    ∃ found, (∀ x : σ, (p.findMatches r .unlimited).run x = (.ok found, x)) ∧
      (∀ m, m ∈ found ↔
        ∃ node, p.Fits r node ∧ m.nodes = p.assign node ∧ m.elided = p.leftOut r node) ∧
      (found.map Mapping.nodes).Nodup ∧
      (found.map Mapping.targets).Pairwise (List.Lex r.Before) ∧
      ∀ m ∈ found, m.targets.Nodup := by
  intro p
  have hp : p.WellFormed := wellFormed_ofKey behavior description key others
  have hrun (x : σ) : (p.findMatches r .unlimited).run x = (.ok (p.matchesIn r), x) := by
    rw [findMatches_unlimited]
    rfl
  exact ⟨p.matchesIn r, hrun, fun m => mem_matchesIn_iff hp hr, nodup_matchesIn hp hr,
    pairwise_matchesIn hp hr, fun m hm => nodup_targets hp hr hm⟩

end Pattern

/-- Two files are read, and the data of both goes into one request, which is made again and
again. -/
def twoReaders : ReducedGraph :=
  let r := ((({} : ReducedGraph).addNode 5 .readFile).addNode 2 .readFile).addNode 3 .httpRequest
  ((r.addEdge 5 3 .data [9, 8]).addEdge 2 3 .data [8]).addEdge 3 3 .control [7, 8]

theorem built_twoReaders : twoReaders.Built :=
  .addEdge 3 3 _ _ (.addEdge 2 3 _ _ (.addEdge 5 3 _ _
    (.addNode 3 _ (.addNode 2 _ (.addNode 5 _ .empty)))))

/-- The data of a file is part of a request that leads to another one. -/
def readThenPoll : Pattern :=
  .ofKey "steal" "send the data of a file" (.pair ⟨.readFile, .data, .httpRequest⟩)
    [⟨.httpRequest, .control, .httpRequest⟩]

theorem findMatches_enumerates_twoReaders :
    twoReaders.Built ∧ twoReaders.Before 5 2 ∧
      ∃ node, readThenPoll.Fits twoReaders node ∧ node .readFile = 5 ∧ node .httpRequest = 3 ∧
        readThenPoll.leftOut twoReaders node = [9, 8, 7] := by
  obtain ⟨found, hfound, hmem, -⟩ := Pattern.findMatches_enumerates (σ := Unit) "steal"
    "send the data of a file" (.pair ⟨.readFile, .data, .httpRequest⟩)
    [⟨.httpRequest, .control, .httpRequest⟩] twoReaders built_twoReaders
  cases Pattern.eq_matchesIn_of_findMatches (hfound ())
  obtain ⟨node, hfits, hnodes, helided⟩ :=
    (hmem ⟨[(.readFile, 5), (.httpRequest, 3)], [9, 8, 7]⟩).mp (by decide)
  have hassigned : [(Category.readFile, 5), (.httpRequest, 3)] =
      [(.readFile, node .readFile), (.httpRequest, node .httpRequest)] := hnodes
  simp only [List.cons.injEq, Prod.mk.injEq, true_and, and_true] at hassigned
  exact ⟨built_twoReaders, by decide, node, hfits, hassigned.1.symm, hassigned.2.symm,
    helided.symm⟩

end PackageVet

import Mathlib.Data.List.Nodup
import PackageVet.Proofs.Checked
import PackageVet.Proofs.Matching.Reach
import PackageVet.Proofs.Pattern

/-! What the matches of a pattern are.

A match gives every category of the pattern a node of that category, so that each triple has a way
in the reduced graph. `mem_matchesIn`: the search gives all of them, and `nodup_matchesIn`: each
once. A search comes to its matches or runs out of time (`comesTo_matchesInM`), and without a limit
it always gives them (`findMatches_unlimited`). -/
namespace PackageVet

/-! ### Assignments -/

/-- All choices of one candidate each, different from those before. -/
def assignments : List (List NodeId) → List NodeId → List (List NodeId)
  | [], assigned => [assigned]
  | candidates :: rest, assigned =>
    (candidates.filter fun id => id ∉ assigned).flatMap fun id =>
      assignments rest (assigned ++ [id])

theorem foldl_choices {α : Type} (f : NodeId → List α) (assigned ids : List NodeId)
    (found : List α) :
    ids.foldl (fun found id => if id ∈ assigned then found else found ++ f id) found =
      found ++ (ids.filter fun id => id ∉ assigned).flatMap f := by
  induction ids generalizing found with
  | nil => simp
  | cons id rest ih =>
    rw [List.foldl_cons, ih]
    by_cases h : id ∈ assigned <;> simp [h]

theorem comesTo_chooseM {m : Type → Type} [Monad m] [LawfulMonad m] {α : Type} (check : m PUnit)
    (accept? : List NodeId → Option α) (candidates : List (List NodeId)) (assigned : List NodeId)
    (found : List α) :
    ComesTo check (chooseM check accept? candidates assigned found)
      (found ++ (assignments candidates assigned).filterMap accept?) := by
  induction candidates generalizing assigned found with
  | nil =>
    have hone : [assigned].filterMap accept? = (accept? assigned).toList := by
      cases h : accept? assigned <;> simp [h]
    rw [assignments, hone]
    exact comesTo_pure _
  | cons ids rest ih =>
    rw [assignments, List.filterMap_flatMap, ← foldl_choices]
    refine comesTo_foldlM (fun found id _ => ?_) found
    split
    · exact comesTo_pure found
    · exact (ih (assigned ++ [id]) found).afterCheck

section
variable {candidates : Category → List NodeId} {categories : List Category}
  {before assigned : List NodeId}

theorem mem_assignments (hcategories : categories.Nodup) (hbefore : before.Nodup) :
    assigned ∈ assignments (categories.map candidates) before ↔
      ∃ node : Category → NodeId, assigned = before ++ categories.map node ∧
        (∀ c ∈ categories, node c ∈ candidates c) ∧ assigned.Nodup := by
  induction categories generalizing before with
  | nil =>
    simp only [List.map_nil, assignments, List.mem_singleton, List.append_nil]
    exact ⟨fun h => ⟨fun _ => 0, h, by simp, h ▸ hbefore⟩, fun ⟨_, h, _⟩ => h⟩
  | cons c rest ih =>
    obtain ⟨hc, hrest⟩ := List.nodup_cons.mp hcategories
    simp only [List.map_cons, assignments, List.mem_flatMap, List.mem_filter, decide_eq_true_eq]
    constructor
    · rintro ⟨id, ⟨hid, hnew⟩, hmem⟩
      have hnodup : (before ++ [id]).Nodup := by simpa using List.Nodup.concat hnew hbefore
      obtain ⟨node, rfl, hnode, hdistinct⟩ := (ih hrest hnodup).mp hmem
      -- `c` is none of the others, so they keep their nodes
      have hothers : rest.map (fun x => if x = c then id else node x) = rest.map node :=
        List.map_congr_left fun x hx => if_neg fun (he : x = c) => hc (he ▸ hx)
      refine ⟨fun x => if x = c then id else node x, by simp [hothers], ?_, hdistinct⟩
      refine List.forall_mem_cons.mpr ⟨by simpa using hid, fun x hx => ?_⟩
      simpa [show x ≠ c from fun he => hc (he ▸ hx)] using hnode x hx
    · rintro ⟨node, rfl, hnode, hdistinct⟩
      obtain ⟨hid, hothers⟩ := List.forall_mem_cons.mp hnode
      have hsplit : before ++ node c :: rest.map node = (before ++ [node c]) ++ rest.map node := by
        simp
      have hnodup : (before ++ [node c]).Nodup := (List.nodup_append.mp (hsplit ▸ hdistinct)).1
      refine ⟨node c, ⟨hid, fun hmem => ?_⟩,
        (ih hrest hnodup).mpr ⟨node, hsplit, hothers, hdistinct⟩⟩
      exact (List.nodup_append.mp hnodup).2.2 _ hmem _ (List.mem_singleton_self _) rfl

theorem nodup_assignments (hcategories : categories.Nodup) (hbefore : before.Nodup)
    (hcandidates : ∀ c, (candidates c).Nodup) :
    (assignments (categories.map candidates) before).Nodup := by
  induction categories generalizing before with
  | nil => exact List.nodup_singleton before
  | cons c rest ih =>
    obtain ⟨-, hrest⟩ := List.nodup_cons.mp hcategories
    have hnodup (id : NodeId) (hid : id ∈ (candidates c).filter fun id => id ∉ before) :
        (before ++ [id]).Nodup := by
      simpa using List.Nodup.concat (of_decide_eq_true (List.mem_filter.mp hid).2) hbefore
    refine List.nodup_flatMap.mpr ⟨fun id hid => ih hrest (hnodup id hid), ?_⟩
    -- the node for `c` tells two choices apart
    refine ((hcandidates c).filter _).imp_of_mem fun {id other} hid hother hne => ?_
    intro assigned hleft hright
    obtain ⟨node, hl, -⟩ := (mem_assignments hrest (hnodup id hid)).mp hleft
    obtain ⟨node', hr, -⟩ := (mem_assignments hrest (hnodup other hother)).mp hright
    rw [hl, List.append_assoc, List.append_assoc] at hr
    exact hne (List.head_eq_of_cons_eq (List.append_cancel_left hr))

/-- Without candidates for one place there is no choice at all. -/
theorem assignments_eq_nil {candidates : List (List NodeId)} (h : [] ∈ candidates) :
    assignments candidates before = [] := by
  induction candidates generalizing before with
  | nil => cases h
  | cons ids rest ih =>
    rcases List.mem_cons.mp h with rfl | hrest
    · rfl
    · exact List.flatMap_eq_nil_iff.mpr fun id _ => ih hrest

end

/-! ### Ways of triples -/

namespace Pattern
variable {p : Pattern} {r : ReducedGraph} {nodes : List (Category × NodeId)} {t : Triple}
  {w elided : List NodeId}

theorem wayOf?_eq_some : wayOf? r nodes t = some w ↔ ∃ head tail,
    nodes.lookup t.head = some head ∧ nodes.lookup t.tail = some tail ∧
      r.reachable? head tail t.kind = some w := by
  simp only [wayOf?, Option.bind_eq_bind, Option.bind_eq_some_iff]
  exact ⟨fun ⟨a, ha, b, hb, hw⟩ => ⟨a, b, ha, hb, hw⟩, fun ⟨a, b, ha, hb, hw⟩ => ⟨a, ha, b, hb, hw⟩⟩

/-- Adds the nodes left out on the way of one triple. -/
def joinWay (r : ReducedGraph) (nodes : List (Category × NodeId)) (elided : List NodeId)
    (t : Triple) : Option (List NodeId) :=
  (wayOf? r nodes t).map (mergeIds elided)

theorem isSome_foldlM_joinWay (triples : List Triple) (known : List NodeId) :
    (triples.foldlM (joinWay r nodes) known).isSome ↔
      ∀ t ∈ triples, (wayOf? r nodes t).isSome := by
  induction triples generalizing known with
  | nil => simp
  | cons t rest ih =>
    rw [List.foldlM_cons, List.forall_mem_cons]
    cases hway : wayOf? r nodes t with
    | none => simp [joinWay, hway]
    | some w => simpa [joinWay, hway] using ih (mergeIds known w)

theorem mem_foldlM_joinWay {triples : List Triple} {known : List NodeId}
    (h : triples.foldlM (joinWay r nodes) known = some elided) {id : NodeId} (hid : id ∈ elided) :
    id ∈ known ∨ ∃ t ∈ triples, ∃ w, wayOf? r nodes t = some w ∧ id ∈ w := by
  induction triples generalizing known with
  | nil =>
    cases h
    exact .inl hid
  | cons t rest ih =>
    rw [List.foldlM_cons] at h
    obtain ⟨merged, hmerged, h⟩ := Option.bind_eq_some_iff.mp h
    obtain ⟨w, hway, rfl⟩ := Option.map_eq_some_iff.mp hmerged
    rcases ih h with hknown | ⟨u, hu, hrest⟩
    · rcases mem_mergeIds.mp hknown with hknown | hw
      · exact .inl hknown
      · exact .inr ⟨t, List.mem_cons_self .., w, hway, hw⟩
    · exact .inr ⟨u, List.mem_cons_of_mem t hu, hrest⟩

/-! ### Matches -/

/-- The nodes of a match, category by category. -/
def assign (p : Pattern) (node : Category → NodeId) : List (Category × NodeId) :=
  p.categories.map fun c => (c, node c)

/-- Whether nodes for its categories match a pattern. -/
structure Fits (p : Pattern) (r : ReducedGraph) (node : Category → NodeId) : Prop where
  category : ∀ c ∈ p.categories, r.category? (node c) = some c
  way : ∀ t ∈ p.triples, Relation.TransGen (r.Leads t.kind) (node t.head) (node t.tail)

variable {node : Category → NodeId}

theorem lookup_assign {c : Category} (hc : c ∈ p.categories) :
    (p.assign node).lookup c = some (node c) :=
  List.lookup_graph node hc

theorem isSome_satisfied? (hp : p.WellFormed) :
    (p.satisfied? r (p.assign node)).isSome ↔
      ∀ t ∈ p.triples, Relation.TransGen (r.Leads t.kind) (node t.head) (node t.tail) := by
  refine (isSome_foldlM_joinWay p.triples []).trans (forall₂_congr fun t ht => ?_)
  obtain ⟨hhead, htail⟩ := hp.ends t ht
  rw [← ReducedGraph.isSome_reachable?, wayOf?, lookup_assign hhead, lookup_assign htail]
  rfl

theorem zip_map_eq_assign (p : Pattern) (node : Category → NodeId) :
    p.categories.zip (p.categories.map node) = p.assign node :=
  List.map_prod_left_eq_zip.symm

/-- The nodes of different categories differ. -/
theorem Fits.nodup (hp : p.WellFormed) (h : p.Fits r node) : (p.categories.map node).Nodup := by
  refine hp.nodup.map_on fun c hc d hd he => ?_
  have hsome : some c = some d := by rw [← h.category c hc, ← h.category d hd, he]
  exact Option.some.inj hsome

/-- **The checks of a search do not change what it comes to**: the choices for which every triple has
a way. -/
theorem comesTo_matchesInM {m : Type → Type} [Monad m] [LawfulMonad m] (p : Pattern)
    (check : m PUnit) (r : ReducedGraph) :
    ComesTo check (p.matchesInM check r)
      ((assignments (p.candidates r) []).filterMap (p.mapping? r)) := by
  unfold matchesInM
  split
  · next hempty =>
    obtain ⟨none, hnone, hnil⟩ := List.any_eq_true.mp hempty
    rw [List.isEmpty_iff.mp hnil] at hnone
    rw [assignments_eq_nil hnone]
    exact comesTo_pure []
  · exact comesTo_chooseM check (p.mapping? r) (p.candidates r) [] []

theorem matchesIn_eq (p : Pattern) (r : ReducedGraph) :
    p.matchesIn r = (assignments (p.candidates r) []).filterMap (p.mapping? r) :=
  (comesTo_matchesInM (m := Id) p (pure ⟨⟩) r).eq_pure

/-- **The matches are the assignments of nodes to categories that fit.** -/
theorem mem_matchesIn (hp : p.WellFormed) (hr : r.Built) :
    nodes ∈ (p.matchesIn r).map Mapping.nodes ↔ ∃ node, nodes = p.assign node ∧ p.Fits r node := by
  simp only [matchesIn_eq, mapping?, List.map_filterMap, List.mem_filterMap, Option.map_map,
    Option.map_eq_some_iff, Function.comp_apply]
  constructor
  · rintro ⟨assigned, hassigned, elided, helided, rfl⟩
    obtain ⟨node, rfl, hnode, -⟩ := (mem_assignments hp.nodup List.nodup_nil).mp hassigned
    rw [List.nil_append, zip_map_eq_assign] at *
    refine ⟨node, rfl, fun c hc => hr.mem_nodesWith.mp (hnode c hc), ?_⟩
    exact (isSome_satisfied? hp).mp (by simp [helided])
  · rintro ⟨node, rfl, hfits⟩
    obtain ⟨elided, helided⟩ :=
      Option.isSome_iff_exists.mp ((isSome_satisfied? hp).mpr hfits.way)
    refine ⟨p.categories.map node, ?_, elided, ?_, zip_map_eq_assign p node⟩
    · exact (mem_assignments hp.nodup List.nodup_nil).mpr ⟨node, rfl,
        fun c hc => hr.mem_nodesWith.mpr (hfits.category c hc), hfits.nodup hp⟩
    · rw [zip_map_eq_assign, helided]

/-- A choice has a node for each category, no more. -/
theorem map_snd_zip_assigned (hp : p.WellFormed) {assigned : List NodeId}
    (h : assigned ∈ assignments (p.candidates r) []) :
    (p.categories.zip assigned).map Prod.snd = assigned := by
  obtain ⟨node, rfl, -⟩ := (mem_assignments hp.nodup List.nodup_nil).mp h
  exact List.map_snd_zip (by simp)

theorem nodup_matchesIn (hp : p.WellFormed) (hr : r.Built) :
    ((p.matchesIn r).map Mapping.nodes).Nodup := by
  have hassignments : (assignments (p.candidates r) []).Nodup :=
    nodup_assignments hp.nodup List.nodup_nil hr.nodup_nodesWith
  rw [matchesIn_eq, List.map_filterMap]
  refine List.pairwise_filterMap.mpr (hassignments.imp_of_mem fun {a b} ha hb hne => ?_)
  intro nodes hnodes nodes' hnodes' he
  simp only [mapping?, Option.map_map, Option.map_eq_some_iff, Function.comp_apply]
    at hnodes hnodes'
  obtain ⟨-, -, rfl⟩ := hnodes
  obtain ⟨-, -, rfl⟩ := hnodes'
  exact hne (by rw [← map_snd_zip_assigned hp ha, he, map_snd_zip_assigned hp hb])

theorem satisfied?_of_mem_matchesIn {m : Mapping} (h : m ∈ p.matchesIn r) :
    p.satisfied? r m.nodes = some m.elided := by
  rw [matchesIn_eq] at h
  obtain ⟨assigned, -, hm⟩ := List.mem_filterMap.mp h
  obtain ⟨elided, helided, rfl⟩ := Option.map_eq_some_iff.mp hm
  exact helided

/-- A pattern of one category leaves no node out. -/
theorem elided_eq_nil_of_isSingle {m : Mapping} (h : m ∈ p.matchesIn r) (hsingle : p.isSingle) :
    m.elided = [] := by
  have hsatisfied := satisfied?_of_mem_matchesIn h
  rw [satisfied?, List.isEmpty_iff.mp hsingle] at hsatisfied
  exact (Option.some.inj hsatisfied).symm

/-- The nodes left out in a match are left out on the way of some triple. -/
theorem mem_elided {m : Mapping} (h : m ∈ p.matchesIn r) {id : NodeId} (hid : id ∈ m.elided) :
    ∃ t ∈ p.triples, ∃ head tail w, m.node? t.head = some head ∧ m.node? t.tail = some tail ∧
      r.reachable? head tail t.kind = some w ∧ id ∈ w := by
  rcases mem_foldlM_joinWay (satisfied?_of_mem_matchesIn h) hid with hnil | ⟨t, ht, w, hway, hw⟩
  · cases hnil
  · obtain ⟨head, tail, hhead, htail, hreach⟩ := wayOf?_eq_some.mp hway
    exact ⟨t, ht, head, tail, w, hhead, htail, hreach, hw⟩

/-! ### Searching -/

section Deadlines
variable {σ : Type} {deadline : Deadline σ} {x x' : σ} {found : List Mapping}

theorem eq_matchesIn_of_findMatches (h : (p.findMatches r deadline).run x = (.ok found, x')) :
    found = p.matchesIn r := by
  rw [matchesIn_eq]
  exact (comesTo_matchesInM p deadline.check r).eq_of_run h

theorem findMatches_unlimited (p : Pattern) (r : ReducedGraph) :
    p.findMatches r (.unlimited : Deadline σ) = pure (p.matchesIn r) := by
  rw [matchesIn_eq]
  exact (comesTo_matchesInM p _ r).eq_pure

end Deadlines

theorem matchesIn_eq_nil_of_head (hp : p.head ∈ p.categories)
    (h : (r.nodesWith p.head).isEmpty = true) : p.matchesIn r = [] := by
  have hnone : [] ∈ p.candidates r :=
    List.mem_map.mpr ⟨p.head, hp, List.isEmpty_iff.mp h⟩
  rw [matchesIn_eq, assignments_eq_nil hnone, List.filterMap_nil]

/-- Whether a search without a limit finds a match. -/
def HasMatch (p : Pattern) (r : ReducedGraph) : Prop :=
  ∃ found, (p.findMatches r .unlimited).run () = (.ok found, ()) ∧ found ≠ []

theorem hasMatch_iff_matchesIn : p.HasMatch r ↔ p.matchesIn r ≠ [] := by
  unfold HasMatch
  rw [findMatches_unlimited]
  constructor
  · rintro ⟨found, ⟨⟩, hfound⟩
    exact hfound
  · exact fun h => ⟨_, rfl, h⟩

theorem hasMatch_iff (hp : p.WellFormed) (hr : r.Built) : p.HasMatch r ↔ ∃ node, p.Fits r node := by
  rw [hasMatch_iff_matchesIn]
  constructor
  · intro h
    obtain ⟨m, hm⟩ := List.exists_mem_of_ne_nil _ h
    obtain ⟨node, -, hfits⟩ := (mem_matchesIn hp hr).mp (List.mem_map_of_mem hm)
    exact ⟨node, hfits⟩
  · rintro ⟨node, hfits⟩
    obtain ⟨m, hm, -⟩ := List.mem_map.mp ((mem_matchesIn hp hr).mpr ⟨node, rfl, hfits⟩)
    exact List.ne_nil_of_mem hm

end Pattern

end PackageVet

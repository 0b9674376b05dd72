import PackageVet.Proofs.Reduced.Graph

/-! What the search for a way in a reduced graph finds.

`isSome_reachable?`: it finds something exactly when there is a way of one edge or more. What it
gives are the nodes left out on the edges of one such way, edge by edge (`reachable?_walk`). The way
comes to no node twice, since a search goes on only from nodes that it had not seen
(`reachable?_simple_walk`). -/
namespace PackageVet.ReducedGraph

variable {r : ReducedGraph} {kind : EdgeKind} {head tail current s t : NodeId}
  {witness seen after w : List NodeId} {depth : Nat}

/-- The nodes left out on the edges of a walk. -/
def elidedAlong (r : ReducedGraph) (s : NodeId) : List NodeId → NodeId → List NodeId
  | [], t => r.elided s t
  | n :: rest, t => r.elided s n ++ r.elidedAlong n rest t

/-- Follows one edge; `deeper` goes on from its end. -/
def reachNode (r : ReducedGraph) (tail : NodeId) (kind : EdgeKind) (witness : List NodeId)
    (current : NodeId) (deeper : List NodeId → NodeId → List NodeId → Reach) (reach : Reach)
    (next : NodeId) : Reach :=
  match reach with
  | .found witness => .found witness
  | .searched seen =>
    if !r.follows kind current next then .searched seen
    else
      let witness := witness ++ r.elided current next
      if next = tail then .found witness
      else if next ∈ seen then .searched seen
      else deeper witness next (next :: seen)

theorem reachFrom_succ :
    r.reachFrom tail kind (depth + 1) witness current seen =
      (r.successors current).foldl
        (r.reachNode tail kind witness current (r.reachFrom tail kind depth)) (.searched seen) :=
  rfl

/-! ### What is found is a way -/

/-- What a search on from a node can come to: a way to the tail over nodes that had not been seen
before, each once, or no more than nodes seen. -/
def Outcome (r : ReducedGraph) (tail : NodeId) (kind : EdgeKind) (witness : List NodeId)
    (current : NodeId) (seen : List NodeId) : Reach → Prop
  | .found w => ∃ between, Walk (r.Leads kind) current between tail ∧ between.Nodup ∧
      (∀ n ∈ between, n ∉ seen ∧ n ≠ tail) ∧ w = witness ++ r.elidedAlong current between tail
  | .searched after => seen ⊆ after

/-- Following one edge, if going on from its end comes to one of the two. -/
theorem outcome_reachNode {deeper : List NodeId → NodeId → List NodeId → Reach} {reach : Reach}
    {next : NodeId} (hnext : next ∈ r.successors current)
    (hdeeper : ∀ witness seen, r.Outcome tail kind witness next seen (deeper witness next seen))
    (h : r.Outcome tail kind witness current seen reach) :
    r.Outcome tail kind witness current seen
      (r.reachNode tail kind witness current deeper reach next) := by
  cases reach with
  | found w => exact h
  | searched middle =>
    have hmiddle : seen ⊆ middle := h
    simp only [reachNode]
    split
    · exact h
    · next hfollows =>
      have hlead : r.Leads kind current next := leads_iff.mpr ⟨hnext, by simpa using hfollows⟩
      split
      · next htail =>
        subst htail
        exact ⟨[], .edge hlead, List.nodup_nil, fun _ hn => (nomatch hn), rfl⟩
      · next htail =>
        split
        · exact h
        · next hnew =>
          have hgoes := hdeeper (witness ++ r.elided current next) (next :: middle)
          -- what was seen before this edge has been seen when the search goes on from its end
          have hseen : seen ⊆ next :: middle := List.Subset.trans hmiddle (List.subset_cons_self ..)
          cases hreach : deeper (witness ++ r.elided current next) next (next :: middle) with
          | searched after =>
            rw [hreach] at hgoes
            exact List.Subset.trans hseen hgoes
          | found w =>
            rw [hreach] at hgoes
            obtain ⟨between, hwalk, hnodup, hall, rfl⟩ := hgoes
            have hfirst : next ∉ between := fun hmem =>
              (hall next hmem).1 (List.mem_cons_self ..)
            refine ⟨next :: between, .step hlead hwalk, List.nodup_cons.mpr ⟨hfirst, hnodup⟩,
              List.forall_mem_cons.mpr ⟨⟨fun hs => hnew (hmiddle hs), htail⟩, fun n hn => ?_⟩, ?_⟩
            · exact ⟨fun hs => (hall n hn).1 (hseen hs), (hall n hn).2⟩
            · rw [elidedAlong, List.append_assoc]

theorem outcome_reachFrom (r : ReducedGraph) (tail : NodeId) (kind : EdgeKind) (depth : Nat)
    (witness : List NodeId) (current : NodeId) (seen : List NodeId) :
    r.Outcome tail kind witness current seen
      (r.reachFrom tail kind depth witness current seen) := by
  induction depth generalizing witness current seen with
  | zero => exact List.Subset.refl seen
  | succ depth ih =>
    rw [reachFrom_succ]
    exact List.foldlRecOn (motive := r.Outcome tail kind witness current seen) _ _
      (List.Subset.refl seen) fun _ hreach next hnext =>
        outcome_reachNode hnext (fun witness seen => ih witness next seen) hreach

/-! ### What is not found is out of reach -/

/-- The nodes that a search from `head` has seen: each once, with an edge to each but `head`. -/
structure SeenFrom (r : ReducedGraph) (head : NodeId) (seen : List NodeId) : Prop where
  nodup : seen.Nodup
  target : ∀ n ∈ seen, n = head ∨ ∃ m, n ∈ r.successors m

theorem SeenFrom.length_le (h : r.SeenFrom head seen) : seen.length ≤ r.edgeCount + 1 := by
  have hlen : (seen.erase head).length ≤ r.edgeCount := by
    apply Edges.length_le_size (h.nodup.erase head)
    intro n hn
    obtain ⟨hne, hmem⟩ := h.nodup.mem_erase_iff.mp hn
    exact (h.target n hmem).resolve_left hne
  have hle := List.le_length_erase (l := seen) (a := head)
  omega

theorem SeenFrom.cons (h : r.SeenFrom head seen) {next : NodeId} (hnew : next ∉ seen)
    (hnext : next ∈ r.successors current) : r.SeenFrom head (next :: seen) :=
  ⟨List.nodup_cons.mpr ⟨hnew, h.nodup⟩,
    List.forall_mem_cons.mpr ⟨.inr ⟨current, hnext⟩, h.target⟩⟩

theorem foldl_reachNode_found {deeper : List NodeId → NodeId → List NodeId → Reach}
    (nexts : List NodeId) :
    nexts.foldl (r.reachNode tail kind witness current deeper) (.found w) = .found w := by
  induction nexts with
  | nil => rfl
  | cons next rest ih => exact ih

/-- Following one edge without success, if going on from its end sees all that follows it. -/
theorem reachNode_searched {deeper : List NodeId → NodeId → List NodeId → Reach} {next : NodeId}
    (hnext : next ∈ r.successors current) (hseen : r.SeenFrom head seen)
    (hdeeper : ∀ witness after, r.SeenFrom head (next :: seen) →
      deeper witness next (next :: seen) = .searched after →
        r.SeenFrom head after ∧ Exhausts (r.Leads kind) tail (next :: seen) after ∧
          ∀ t, r.Leads kind next t → t ≠ tail ∧ t ∈ after)
    (h : r.reachNode tail kind witness current deeper (.searched seen) next = .searched after) :
    r.SeenFrom head after ∧ Exhausts (r.Leads kind) tail seen after ∧
      (r.Leads kind current next → next ≠ tail ∧ next ∈ after) := by
  simp only [reachNode] at h
  split at h
  · next hfollows =>
    cases h
    refine ⟨hseen, .refl seen, fun hlead => ?_⟩
    rw [(leads_iff.mp hlead).2] at hfollows
    cases hfollows
  · split at h
    · cases h
    · next htail =>
      split at h
      · next hmem =>
        cases h
        exact ⟨hseen, .refl seen, fun _ => ⟨htail, hmem⟩⟩
      · next hnew =>
        obtain ⟨hafter, hexhausts, hall⟩ := hdeeper _ _ (hseen.cons hnew hnext) h
        exact ⟨hafter, hexhausts.cons hall,
          fun _ => ⟨htail, hexhausts.explored.seen (List.mem_cons_self ..)⟩⟩

/-- A search without success has seen all that can be reached. Each step down sees a new node, so
the depth is not used up before the edges are. -/
theorem reachFrom_searched (hdepth : r.edgeCount + 1 < seen.length + depth)
    (hseen : r.SeenFrom head seen)
    (h : r.reachFrom tail kind depth witness current seen = .searched after) :
    r.SeenFrom head after ∧ Exhausts (r.Leads kind) tail seen after ∧
      ∀ t, r.Leads kind current t → t ≠ tail ∧ t ∈ after := by
  induction depth generalizing witness current seen after with
  | zero =>
    have hlen := hseen.length_le
    omega
  | succ depth ih =>
    rw [reachFrom_succ] at h
    -- along the successors, from any set of nodes seen so far
    suffices ∀ (nexts seen : List NodeId), nexts ⊆ r.successors current →
        r.edgeCount + 1 < seen.length + (depth + 1) → r.SeenFrom head seen →
        nexts.foldl (r.reachNode tail kind witness current (r.reachFrom tail kind depth))
          (.searched seen) = .searched after →
        r.SeenFrom head after ∧ Exhausts (r.Leads kind) tail seen after ∧
          ∀ t ∈ nexts, r.Leads kind current t → t ≠ tail ∧ t ∈ after by
      obtain ⟨hafter, hexhausts, hall⟩ := this _ seen (List.Subset.refl _) hdepth hseen h
      exact ⟨hafter, hexhausts, fun t ht => hall t (leads_iff.mp ht).1 ht⟩
    clear h hseen hdepth
    intro nexts
    induction nexts with
    | nil =>
      intro seen _ _ hseen h
      cases h
      exact ⟨hseen, .refl _, fun _ ht => nomatch ht⟩
    | cons next nexts ihn =>
      intro seen hsub hdepth hseen h
      obtain ⟨hnext, hnexts⟩ := List.cons_subset.mp hsub
      rw [List.foldl_cons] at h
      cases hstep : r.reachNode tail kind witness current (r.reachFrom tail kind depth)
          (.searched seen) next with
      | found w =>
        rw [hstep, foldl_reachNode_found] at h
        cases h
      | searched middle =>
        have hdeeper : r.edgeCount + 1 < (next :: seen).length + depth := by
          rw [List.length_cons]
          omega
        obtain ⟨hmiddle, hexhausts, hone⟩ :=
          reachNode_searched hnext hseen (fun _ _ hs hd => ih hdeeper hs hd) hstep
        have hlen := hseen.nodup.length_le_of_subset hexhausts.explored.seen
        rw [hstep] at h
        obtain ⟨hafter, hrest, hall⟩ := ihn middle hnexts (by omega) hmiddle h
        refine ⟨hafter, hexhausts.trans hrest, List.forall_mem_cons.mpr ⟨fun hlead => ?_, hall⟩⟩
        obtain ⟨hne, hmem⟩ := hone hlead
        exact ⟨hne, hrest.explored.seen hmem⟩

/-! ### Reachability -/

/-- What is given are the nodes left out on a way that comes to no node twice, unless it leads back
to where it starts. -/
theorem reachable?_simple_walk (h : r.reachable? head tail kind = some w) :
    ∃ between, Walk (r.Leads kind) head between tail ∧ (head :: between).Nodup ∧
      tail ∉ between ∧ w = r.elidedAlong head between tail := by
  have houtcome := outcome_reachFrom r tail kind (r.edgeCount + 1) [] head [head]
  unfold reachable? at h
  split at h
  · next hfound =>
    cases h
    rw [hfound] at houtcome
    obtain ⟨between, hwalk, hnodup, hall, hw⟩ := houtcome
    have hhead : head ∉ between := fun hmem => (hall head hmem).1 (List.mem_singleton.mpr rfl)
    have htail : tail ∉ between := fun hmem => (hall tail hmem).2 rfl
    exact ⟨between, hwalk, List.nodup_cons.mpr ⟨hhead, hnodup⟩, htail, hw⟩
  · cases h

theorem reachable?_walk (h : r.reachable? head tail kind = some w) :
    ∃ between, Walk (r.Leads kind) head between tail ∧ w = r.elidedAlong head between tail := by
  obtain ⟨between, hwalk, -, -, hw⟩ := reachable?_simple_walk h
  exact ⟨between, hwalk, hw⟩

theorem not_way_of_reachable?_eq_none (h : r.reachable? head tail kind = none) :
    ¬ Relation.TransGen (r.Leads kind) head tail := by
  unfold reachable? at h
  split at h
  · cases h
  · next after hsearched =>
    obtain ⟨-, hexhausts, hall⟩ := reachFrom_searched (by simp)
      (⟨by simp, by simp⟩ : r.SeenFrom head [head]) hsearched
    exact (hexhausts.cons hall).not_way (hexhausts.explored.seen (List.mem_cons_self ..))

theorem isSome_reachable? :
    (r.reachable? head tail kind).isSome ↔ Relation.TransGen (r.Leads kind) head tail := by
  constructor
  · intro h
    obtain ⟨w, hw⟩ := Option.isSome_iff_exists.mp h
    obtain ⟨between, hwalk, -⟩ := reachable?_walk hw
    exact hwalk.way
  · intro hway
    cases h : r.reachable? head tail kind with
    | none => exact absurd hway (not_way_of_reachable?_eq_none h)
    | some w => rfl

/-- **The search finds exactly the transitive closure, and has a way to show for it.** -/
theorem reachable?_closure (r : ReducedGraph) (head tail : NodeId) (kind : EdgeKind) :
    ((r.reachable? head tail kind).isSome ↔ Relation.TransGen (r.Leads kind) head tail) ∧
    ∀ w, r.reachable? head tail kind = some w →
      ∃ between, Walk (r.Leads kind) head between tail ∧ (head :: between).Nodup ∧
        tail ∉ between ∧ w = r.elidedAlong head between tail :=
  ⟨isSome_reachable?, fun _ h => reachable?_simple_walk h⟩

/-- Data goes from 1 back to 1, past a branch that only leads back to 2. -/
def roundTrip : ReducedGraph where
  edges := ⟨[((1, 3), ⟨.control, [9]⟩), ((1, 2), ⟨.data, [7]⟩), ((2, 4), ⟨.data, [5]⟩),
    ((4, 2), ⟨.data, []⟩), ((2, 1), ⟨.data, [8, 7]⟩)]⟩

theorem reachable?_closure_roundTrip :
    roundTrip.reachable? 1 1 .data = some [7, 8, 7] ∧
    Relation.TransGen (roundTrip.Leads .data) 1 1 ∧
    (∃ between, Walk (roundTrip.Leads .data) 1 between 1 ∧ (1 :: between).Nodup ∧ 1 ∉ between ∧
      [7, 8, 7] = roundTrip.elidedAlong 1 between 1) ∧
    ¬ Relation.TransGen (roundTrip.Leads .data) 1 3 := by
  have hfound : roundTrip.reachable? 1 1 .data = some [7, 8, 7] := by decide
  have hmissed : roundTrip.reachable? 1 3 .data = none := by decide
  obtain ⟨hsome, hway⟩ := reachable?_closure roundTrip 1 1 .data
  refine ⟨hfound, hsome.mp (by rw [hfound]; rfl), hway _ hfound, fun h => ?_⟩
  have hthree := (reachable?_closure roundTrip 1 3 .data).1.mpr h
  rw [hmissed] at hthree
  cases hthree

end PackageVet.ReducedGraph

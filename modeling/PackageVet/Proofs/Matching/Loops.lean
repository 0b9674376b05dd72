import PackageVet.Proofs.Matching.Matches

/-! The searches for ways and for matches as loops.

Both searches are recursions, and both can be run as loops that keep a stack. The one for a way
keeps the nodes that it is going through, each with the number of its successors that were taken
(`WaySearch`). The one for matches keeps the nodes that were chosen and, for each place, the number
of its candidates that were taken (`ChoiceSearch`).

What a recursion does at one level, some rounds do with what is on top of the stack, and then the
loop stands where it stood before that level (`WaySearch.rounds_frame` and
`ChoiceSearch.rounds_level`). So the loops end with what the recursions give (`WaySearch.ends`,
`Pattern.findRounds_ends`). For matches the two are equal whatever a check does, so they make the
same checks at the same places. -/
namespace PackageVet

/-! ### Rounds of a loop -/

section Rounds
variable {m : Type → Type} [Monad m] {σ α : Type} {round : σ → m (σ ⊕ α)} {s s' : σ} {a : α}

/-- A loop after some rounds: where it stands, or what it has ended with. -/
def rounds (round : σ → m (σ ⊕ α)) : Nat → σ → m (σ ⊕ α)
  | 0, s => pure (.inl s)
  | n + 1, s => do
    match ← round s with
    | .inl s => rounds round n s
    | .inr a => pure (.inr a)

variable [LawfulMonad m]

theorem rounds_of_inl (h : round s = pure (.inl s')) (n : Nat) :
    rounds round (n + 1) s = rounds round n s' := by
  rw [rounds, h, pure_bind]

theorem rounds_of_inr (h : round s = pure (.inr a)) (n : Nat) :
    rounds round (n + 1) s = pure (.inr a) := by
  rw [rounds, h, pure_bind]

theorem rounds_of_check {check : m PUnit} (h : round s = check >>= fun _ => pure (.inl s'))
    (n : Nat) : rounds round (n + 1) s = check >>= fun _ => rounds round n s' := by
  rw [rounds, h, bind_assoc]
  simp only [pure_bind]

end Rounds

/-! ### Ways -/

/-- Where a search for a way stands. -/
structure WaySearch where
  seen : List NodeId
  /-- The nodes that are being gone through, the last one first, each with the number of its
  successors that were taken. -/
  stack : List (NodeId × Nat)

namespace WaySearch

def setOut (head : NodeId) : WaySearch := ⟨[head], [(head, 0)]⟩

/-- The nodes left out on the edges from each node of a stack to the one above it. -/
def elidedUp (r : ReducedGraph) : List NodeId → List NodeId
  | next :: current :: below => elidedUp r (current :: below) ++ r.elided current next
  | _ => []

theorem elidedUp_singleton (r : ReducedGraph) (id : NodeId) : elidedUp r [id] = [] := rfl

variable (r : ReducedGraph) (tail : NodeId) (kind : EdgeKind)

/-- One round: takes a successor of the node on top of the stack, or that node off the stack. -/
def round (s : WaySearch) : Id (WaySearch ⊕ Option (List NodeId)) :=
  match s.stack with
  | [] => pure (.inr none)
  | (current, index) :: below =>
    match (r.successors current)[index]? with
    | none => pure (.inl { s with stack := below })
    | some next =>
      let stack := (current, index + 1) :: below
      if !r.follows kind current next then pure (.inl { s with stack })
      else if next = tail then pure (.inr (some (elidedUp r (next :: stack.map Prod.fst))))
      else if next ∈ s.seen then pure (.inl { s with stack })
      else pure (.inl { seen := next :: s.seen, stack := (next, 0) :: stack })

/-- The loop after a level of the recursion: at its end if a way was found there, and otherwise some
rounds further on with what was below. -/
def onwards (k : Nat) (below : List (NodeId × Nat)) :
    Reach → Id (WaySearch ⊕ Option (List NodeId))
  | .found witness => pure (.inr (some witness))
  | .searched seen => rounds (round r tail kind) k ⟨seen, below⟩

variable {r tail kind} {head current next : NodeId} {seen : List NodeId} {depth index : Nat}

variable (r tail kind head) in
/-- Whether the loop does with a node on top of the stack what the recursion does at a depth that
suffices. -/
def EndsFrames (depth : Nat) : Prop :=
  ∀ {current : NodeId} {seen : List NodeId} {below : List (NodeId × Nat)},
    r.edgeCount + 1 < seen.length + depth → r.SeenFrom head seen →
    ∃ n, ∀ k, rounds (round r tail kind) (n + k) ⟨seen, (current, 0) :: below⟩ =
      onwards r tail kind k below
        (r.reachFrom tail kind depth (elidedUp r (current :: below.map Prod.fst)) current seen)

theorem reachNode_of_follows (h : r.follows kind current next = true) (witness : List NodeId)
    (deeper : List NodeId → NodeId → List NodeId → Reach) :
    r.reachNode tail kind witness current deeper (.searched seen) next =
      if next = tail then .found (witness ++ r.elided current next)
      else if next ∈ seen then .searched seen
      else deeper (witness ++ r.elided current next) next (next :: seen) := by
  simp [ReducedGraph.reachNode, h]

/-- One successor: the loop takes it in one round, unless it puts it on the stack. -/
theorem rounds_next (hdeeper : EndsFrames r tail kind head depth)
    (hdepth : r.edgeCount + 1 < seen.length + (depth + 1)) (hseen : r.SeenFrom head seen)
    (hnext : (r.successors current)[index]? = some next) (below : List (NodeId × Nat)) :
    ∃ n, ∀ k, rounds (round r tail kind) (n + k) ⟨seen, (current, index) :: below⟩ =
      onwards r tail kind k ((current, index + 1) :: below)
        (r.reachNode tail kind (elidedUp r (current :: below.map Prod.fst)) current
          (r.reachFrom tail kind depth) (.searched seen) next) := by
  by_cases hfollows : r.follows kind current next = true
  · rw [reachNode_of_follows hfollows]
    by_cases htail : next = tail
    · subst htail
      refine ⟨1, fun k => ?_⟩
      rw [if_pos rfl, Nat.add_comm]
      refine rounds_of_inr ?_ k
      simp [round, hnext, hfollows, elidedUp]
    · by_cases hknown : next ∈ seen
      · refine ⟨1, fun k => ?_⟩
        rw [if_neg htail, if_pos hknown, Nat.add_comm]
        refine rounds_of_inl ?_ k
        simp [round, hnext, hfollows, htail, hknown]
      · have hmem : next ∈ r.successors current := List.mem_of_getElem? hnext
        obtain ⟨n, hn⟩ := @hdeeper next (next :: seen) ((current, index + 1) :: below)
          (by rw [List.length_cons]; omega) (hseen.cons hknown hmem)
        refine ⟨n + 1, fun k => ?_⟩
        rw [if_neg htail, if_neg hknown, Nat.add_right_comm]
        refine (rounds_of_inl ?_ (n + k)).trans (hn k)
        simp [round, hnext, hfollows, htail, hknown]
  · have hnode (deeper : List NodeId → NodeId → List NodeId → Reach) (witness : List NodeId) :
        r.reachNode tail kind witness current deeper (.searched seen) next = .searched seen := by
      simp [ReducedGraph.reachNode, hfollows]
    refine ⟨1, fun k => ?_⟩
    rw [hnode, Nat.add_comm]
    refine rounds_of_inl ?_ k
    simp [round, hnext, hfollows]

/-- The loop goes through the successors of a node as the recursion does, if it does so with every
node that it puts on the stack there. -/
theorem rounds_successors (hdeeper : EndsFrames r tail kind head depth)
    (hdepth : r.edgeCount + 1 < seen.length + (depth + 1)) (hseen : r.SeenFrom head seen)
    (index : Nat) (below : List (NodeId × Nat)) :
    ∃ n, ∀ k, rounds (round r tail kind) (n + k) ⟨seen, (current, index) :: below⟩ =
      onwards r tail kind k below (((r.successors current).drop index).foldl
        (r.reachNode tail kind (elidedUp r (current :: below.map Prod.fst)) current
          (r.reachFrom tail kind depth)) (.searched seen)) := by
  generalize hrest : (r.successors current).drop index = rest
  induction rest generalizing seen index with
  | nil =>
    have hnone : (r.successors current)[index]? = none := by
      rw [← List.head?_drop, hrest]
      rfl
    refine ⟨1, fun k => ?_⟩
    rw [Nat.add_comm]
    refine rounds_of_inl ?_ k
    simp only [round, hnone]
  | cons next rest ih =>
    have hnext : (r.successors current)[index]? = some next := by
      rw [← List.head?_drop, hrest]
      rfl
    have hdrop : (r.successors current).drop (index + 1) = rest := by
      rw [← List.tail_drop, hrest]
      rfl
    obtain ⟨n, hn⟩ := rounds_next hdeeper hdepth hseen hnext below
    rw [List.foldl_cons]
    cases hstep : r.reachNode tail kind (elidedUp r (current :: below.map Prod.fst)) current
        (r.reachFrom tail kind depth) (.searched seen) next with
    | found w =>
      refine ⟨n, fun k => ?_⟩
      rw [hn, hstep, ReducedGraph.foldl_reachNode_found]
      rfl
    | searched middle =>
      -- what has been seen only grows, so the depth suffices for the other successors
      obtain ⟨hmiddle, hexhausts, -⟩ := ReducedGraph.reachNode_searched
        (List.mem_of_getElem? hnext) hseen
        (fun _ _ hs hd => ReducedGraph.reachFrom_searched
          (by rw [List.length_cons]; omega) hs hd) hstep
      have hlen := hseen.nodup.length_le_of_subset hexhausts.explored.seen
      obtain ⟨n', hn'⟩ := ih (by omega) hmiddle (index + 1) hdrop
      refine ⟨n + n', fun k => ?_⟩
      rw [Nat.add_assoc, hn, hstep]
      exact hn' k

/-- The loop comes to the end of a node on top of the stack, with what the recursion gives. -/
theorem rounds_frame (r : ReducedGraph) (tail : NodeId) (kind : EdgeKind) (head : NodeId)
    (depth : Nat) : EndsFrames r tail kind head depth := by
  induction depth with
  | zero =>
    intro current seen below hdepth hseen
    have hlen := hseen.length_le
    omega
  | succ depth ih =>
    intro current seen below hdepth hseen
    rw [ReducedGraph.reachFrom_succ]
    exact rounds_successors ih hdepth hseen 0 below

/-- **The loop ends with what the recursion finds.** -/
theorem ends (r : ReducedGraph) (head tail : NodeId) (kind : EdgeKind) :
    ∃ n, ∀ k, rounds (round r tail kind) (n + k) (setOut head) =
      pure (.inr (r.reachable? head tail kind)) := by
  obtain ⟨n, hn⟩ := @rounds_frame r tail kind head (r.edgeCount + 1) head [head] []
    (by simp) ⟨by simp, by simp⟩
  rw [List.map_nil, elidedUp_singleton] at hn
  unfold ReducedGraph.reachable?
  cases hreach : r.reachFrom tail kind (r.edgeCount + 1) [] head [head] with
  | found w =>
    refine ⟨n, fun k => (hn k).trans ?_⟩
    rw [hreach]
    rfl
  | searched seen =>
    -- one more round finds the stack empty
    refine ⟨n + 1, fun k => ?_⟩
    rw [Nat.add_right_comm]
    refine (hn (k + 1)).trans ?_
    rw [hreach]
    exact rounds_of_inr rfl k

end WaySearch

/-! ### Matches -/

/-- Where a search through choices stands. -/
structure ChoiceSearch (α : Type) where
  assigned : List NodeId := []
  /-- The number of candidates that were taken, for each place that a node is being chosen for, the
  last one first. -/
  cursor : List Nat := [0]
  found : List α := []

namespace ChoiceSearch
variable {m : Type → Type} [Monad m] {α : Type}

/-- One round: tries a candidate for the last place, or gives the place up. It ends with nothing
where there is no such place. -/
def round (check : m PUnit) (accept? : List NodeId → Option α) (candidates : List (List NodeId))
    (s : ChoiceSearch α) : m (ChoiceSearch α ⊕ Option (List α)) :=
  match s.cursor with
  | [] => pure (.inr (some s.found))
  | position :: below =>
    match candidates[below.length]? with
    | none => pure (.inr none)
    | some ids =>
      match ids[position]? with
      | none => pure (.inl { s with cursor := below, assigned := s.assigned.dropLast })
      | some id =>
        let cursor := (position + 1) :: below
        if id ∈ s.assigned then pure (.inl { s with cursor })
        else do
          check
          let assigned := s.assigned ++ [id]
          if assigned.length = candidates.length then
            pure (.inl { s with cursor, found := s.found ++ (accept? assigned).toList })
          else pure (.inl { s with assigned, cursor := 0 :: cursor })

/-- Tries one candidate, as the recursion does. -/
def tryOne (check : m PUnit) (accept? : List NodeId → Option α) (rest : List (List NodeId))
    (assigned : List NodeId) (found : List α) (id : NodeId) : m (List α) :=
  if id ∈ assigned then pure found
  else do
    check
    chooseM check accept? rest (assigned ++ [id]) found

theorem chooseM_cons (check : m PUnit) (accept? : List NodeId → Option α) (ids : List NodeId)
    (rest : List (List NodeId)) (assigned : List NodeId) (found : List α) :
    chooseM check accept? (ids :: rest) assigned found =
      ids.foldlM (tryOne check accept? rest assigned) found := rfl

variable [LawfulMonad m] {check : m PUnit} {accept? : List NodeId → Option α}
  {candidates before rest : List (List NodeId)} {ids assigned : List NodeId} {below : List Nat}

/-- The loop goes through the candidates of a place as the recursion does, if it does so with every
one of them. -/
theorem rounds_candidates (hplace : candidates[below.length]? = some ids)
    (hone : ∀ position id, ids[position]? = some id → id ∉ assigned →
      ∃ n, ∀ found k, rounds (round check accept? candidates) (n + k)
          ⟨assigned, position :: below, found⟩ =
        check >>= fun _ => chooseM check accept? rest (assigned ++ [id]) found >>= fun found =>
          rounds (round check accept? candidates) k ⟨assigned, (position + 1) :: below, found⟩)
    (position : Nat) :
    ∃ n, ∀ found k, rounds (round check accept? candidates) (n + k)
        ⟨assigned, position :: below, found⟩ =
      (ids.drop position).foldlM (tryOne check accept? rest assigned) found >>= fun found =>
        rounds (round check accept? candidates) k ⟨assigned.dropLast, below, found⟩ := by
  generalize hrest : ids.drop position = others
  induction others generalizing position with
  | nil =>
    have hnone : ids[position]? = none := by
      rw [← List.head?_drop, hrest]
      rfl
    refine ⟨1, fun found k => ?_⟩
    rw [Nat.add_comm, List.foldlM_nil, pure_bind]
    refine rounds_of_inl ?_ k
    simp only [round, hplace, hnone]
  | cons id others ih =>
    have hid : ids[position]? = some id := by
      rw [← List.head?_drop, hrest]
      rfl
    have hdrop : ids.drop (position + 1) = others := by
      rw [← List.tail_drop, hrest]
      rfl
    obtain ⟨n, hn⟩ := ih (position + 1) hdrop
    by_cases hassigned : id ∈ assigned
    · refine ⟨n + 1, fun found k => ?_⟩
      rw [Nat.add_right_comm, List.foldlM_cons, tryOne, if_pos hassigned, pure_bind, ← hn]
      refine rounds_of_inl ?_ (n + k)
      simp only [round, hplace, hid, if_pos hassigned]
    · obtain ⟨n', hn'⟩ := hone position id hid hassigned
      refine ⟨n' + n, fun found k => ?_⟩
      rw [Nat.add_assoc, hn', List.foldlM_cons, tryOne, if_neg hassigned]
      simp only [bind_assoc, hn]

/-- The loop does at a place what the recursion does there, and gives the place up. -/
theorem rounds_level (hcandidates : candidates = before ++ ids :: rest)
    (hbelow : below.length = before.length) (hassigned : assigned.length = before.length)
    (position : Nat) :
    ∃ n, ∀ found k, rounds (round check accept? candidates) (n + k)
        ⟨assigned, position :: below, found⟩ =
      (ids.drop position).foldlM (tryOne check accept? rest assigned) found >>= fun found =>
        rounds (round check accept? candidates) k ⟨assigned.dropLast, below, found⟩ := by
  induction rest generalizing before ids assigned below position with
  | nil =>
    have hplace : candidates[below.length]? = some ids := by simp [hcandidates, hbelow]
    refine rounds_candidates hplace (fun position id hid hnew => ⟨1, fun found k => ?_⟩) position
    -- the last place: the choice is full
    have hfull : (assigned ++ [id]).length = candidates.length := by simp [hcandidates, hassigned]
    rw [Nat.add_comm]
    simp only [chooseM, pure_bind]
    refine rounds_of_check ?_ k
    simp only [round, hplace, hid, if_neg hnew, if_pos hfull]
  | cons next rest ih =>
    have hplace : candidates[below.length]? = some ids := by simp [hcandidates, hbelow]
    refine rounds_candidates hplace (fun position id hid hnew => ?_) position
    have hmore : (assigned ++ [id]).length ≠ candidates.length := by simp [hcandidates, hassigned]
    obtain ⟨n, hn⟩ := @ih (before ++ [ids]) next (assigned ++ [id]) ((position + 1) :: below)
      (by simp [hcandidates]) (by simp [hbelow]) (by simp [hassigned]) 0
    refine ⟨n + 1, fun found k => ?_⟩
    rw [Nat.add_right_comm, chooseM_cons]
    rw [List.drop_zero, List.dropLast_concat] at hn
    simp only [← hn]
    refine rounds_of_check ?_ (n + k)
    simp only [round, hplace, hid, if_neg hnew, if_neg hmore]

/-- **The loop ends with what the recursion comes to**, if there is something to choose. -/
theorem ends (check : m PUnit) (accept? : List NodeId → Option α) {candidates : List (List NodeId)}
    (hcandidates : candidates ≠ []) :
    ∃ n, ∀ k, rounds (round check accept? candidates) (n + k) {} =
      (fun found => .inr (some found)) <$> chooseM check accept? candidates [] [] := by
  obtain ⟨ids, rest, rfl⟩ := List.exists_cons_of_ne_nil hcandidates
  obtain ⟨n, hn⟩ :=
    @rounds_level m _ α _ check accept? (ids :: rest) [] rest ids [] [] rfl rfl rfl 0
  refine ⟨n + 1, fun k => ?_⟩
  rw [Nat.add_right_comm, chooseM_cons, map_eq_pure_bind]
  refine (hn [] (k + 1)).trans ?_
  congr 1
  funext found
  exact rounds_of_inr rfl k

end ChoiceSearch

namespace Pattern
variable {σ : Type}

/-- The search for matches after some rounds. Nothing is tried where a category has no candidate. -/
def findRounds (p : Pattern) (r : ReducedGraph) (deadline : Deadline σ) (n : Nat) :
    Effect AnalysisError σ (ChoiceSearch Mapping ⊕ Option (List Mapping)) :=
  if (p.candidates r).any List.isEmpty then pure (.inr (some []))
  else rounds (ChoiceSearch.round deadline.check (p.mapping? r) (p.candidates r)) n {}

/-- **The loop ends with the matches that are found**, or runs out of time at the same check. -/
theorem findRounds_ends {p : Pattern} (hp : p.WellFormed) (r : ReducedGraph)
    (deadline : Deadline σ) :
    ∃ n, ∀ k, p.findRounds r deadline (n + k) =
      (fun found => .inr (some found)) <$> p.findMatches r deadline := by
  unfold findRounds findMatches matchesInM
  split
  · exact ⟨0, fun _ => (map_pure ..).symm⟩
  · refine ChoiceSearch.ends deadline.check (p.mapping? r) fun hnil => ?_
    exact List.ne_nil_of_mem hp.head (List.map_eq_nil_iff.mp hnil)

end Pattern

end PackageVet

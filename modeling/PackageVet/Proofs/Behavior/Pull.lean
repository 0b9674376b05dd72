import PackageVet.Proofs.Behavior.Join

/-! Taking out of a graph all that leads to a node.

The search goes from one `Pull` to the next, each time taking a node off its stack (`Pull.next?`).
A node that is seen for the first time brings its predecessors with it, and they go on the stack.
What has been seen leads to the start, and what leads to it has been seen or is on the stack
(`Pull.OnTrack`). The stack runs empty, whether the background has cycles or not, since an edge puts
one node on it once (`runs_pullFrom`): then exactly the nodes that lead to the start have come over,
with the edges between them (`pullPredecessors_ancestors`). -/
namespace PackageVet.BehaviorGraph
open Relation (ReflTransGen TransGen)

variable {g background : BehaviorGraph} {start current a b n : NodeId}

/-! ### The predecessors of one node -/

/-- Takes all predecessors of a node out of another graph, with their edges. -/
def pullHeads (background : BehaviorGraph) (current : NodeId) (g : BehaviorGraph) :
    BehaviorGraph :=
  (background.predecessors current).foldl (pullHead background current) g

theorem mem_nodes_pullHeads :
    n ∈ (pullHeads background current g).nodes ↔
      n ∈ g.nodes ∨ background.hasEdge n current = true := by
  rw [← mem_predecessors]
  unfold pullHeads
  induction background.predecessors current generalizing g with
  | nil => simp
  | cons head rest ih =>
    have hnodes : (pullHead background current g head).nodes = (g.addNode head).nodes := rfl
    rw [List.foldl_cons, ih, hnodes, mem_nodes_addNode, List.mem_cons, or_assoc]

theorem tags?_pullHead (background : BehaviorGraph) (current : NodeId) (g : BehaviorGraph)
    (head a b : NodeId) :
    (pullHead background current g head).tags? a b =
      if head = a ∧ b = current then
        moreTags (some ((background.tags? a b).getD [])) (g.tags? a b)
      else g.tags? a b := by
  unfold pullHead
  rw [tags?_addEdge, tags?_addNode, tags?_addNode]
  by_cases h : head = a ∧ b = current
  · obtain ⟨rfl, rfl⟩ := h
    simp [moreTags]
  · rw [if_neg h, if_neg fun he => h ⟨he.1.symm, he.2⟩]

theorem tags?_pullHeads (background : BehaviorGraph) (current : NodeId) (g : BehaviorGraph)
    (a b : NodeId) :
    (pullHeads background current g).tags? a b =
      if b = current then moreTags (background.tags? a b) (g.tags? a b) else g.tags? a b := by
  by_cases hb : b = current
  · subst hb
    have hheads : (pullHeads background b g).tags? a b =
        if a ∈ background.predecessors b then
          moreTags (some ((background.tags? a b).getD [])) (g.tags? a b)
        else g.tags? a b :=
      foldl_view (fun (g : BehaviorGraph) => g.tags? a b) _
        (fun g head => (tags?_pullHead background b g head a b).trans (by simp))
        (moreTags_again _) _ g
    rw [hheads, if_pos rfl]
    cases htags : background.tags? a b with
    | none => simp [mem_predecessors, hasEdge, htags, moreTags]
    | some tags => simp [mem_predecessors, hasEdge, htags]
  · rw [if_neg hb]
    refine List.foldlRecOn (motive := fun (h : BehaviorGraph) => h.tags? a b = g.tags? a b) _ _ rfl
      fun h hh head _ => ?_
    rw [tags?_pullHead, if_neg fun he => hb he.2, hh]

theorem pullHeads_kept (background : BehaviorGraph) (current : NodeId) (g : BehaviorGraph) :
    (pullHeads background current g).entrance = g.entrance ∧
      (pullHeads background current g).returns = g.returns := by
  refine List.foldlRecOn (motive := fun (h : BehaviorGraph) =>
    h.entrance = g.entrance ∧ h.returns = g.returns) _ _ ⟨rfl, rfl⟩ fun h hh head _ => ?_
  rw [pullHead, addNode_eq]
  exact hh

/-! ### One node after another -/

/-- Whether there is a way from a node to another, or they are one. -/
def Reaches (g : BehaviorGraph) : NodeId → NodeId → Prop :=
  ReflTransGen fun a b => g.hasEdge a b = true

/-- Where the search for all that leads to a node stands. -/
structure Pull where
  seen : List NodeId
  stack : List NodeId
  graph : BehaviorGraph

namespace Pull

/-- What comes next, as long as there are nodes on the stack. -/
def next? (background : BehaviorGraph) (p : Pull) : Option Pull :=
  match p.stack with
  | [] => none
  | current :: stack =>
    if current ∈ p.seen then some { p with stack }
    else some
      { seen := current :: p.seen
        stack := (background.predecessors current).reverse ++ stack
        graph := pullHeads background current p.graph }

/-- Some steps of a search, one after another. -/
def Runs (background : BehaviorGraph) : Pull → Pull → Prop :=
  ReflTransGen fun p q => p.next? background = some q

variable {p q : Pull}

theorem next?_eq_some (h : p.next? background = some q) :
    ∃ current stack, p.stack = current :: stack ∧
      (current ∈ p.seen ∧ q = { p with stack } ∨
        current ∉ p.seen ∧ q =
          { seen := current :: p.seen
            stack := (background.predecessors current).reverse ++ stack
            graph := pullHeads background current p.graph }) := by
  unfold next? at h
  split at h
  · cases h
  · next current stack hstack =>
    refine ⟨current, stack, hstack, ?_⟩
    split at h
    · next hseen => exact .inl ⟨hseen, (Option.some.inj h).symm⟩
    · next hnew => exact .inr ⟨hnew, (Option.some.inj h).symm⟩

/-- What holds of a search from a node wherever it stands. -/
structure OnTrack (background : BehaviorGraph) (start : NodeId) (g : BehaviorGraph) (p : Pull) :
    Prop where
  entrance : p.graph.entrance = g.entrance
  returns : p.graph.returns = g.returns
  started : start ∈ p.seen ∨ start ∈ p.stack
  reaches : ∀ n, n ∈ p.seen ∨ n ∈ p.stack → background.Reaches n start
  /-- What leads to a node that was seen has been seen or will be. -/
  pending : ∀ n, ∀ c ∈ p.seen, background.hasEdge n c = true → n ∈ p.seen ∨ n ∈ p.stack
  nodes : ∀ n, n ∈ p.graph.nodes ↔ n ∈ g.nodes ∨ ∃ c ∈ p.seen, background.hasEdge n c = true
  tags : ∀ a b, p.graph.tags? a b =
    if b ∈ p.seen then moreTags (background.tags? a b) (g.tags? a b) else g.tags? a b

theorem onTrack_start (background : BehaviorGraph) (start : NodeId) (g : BehaviorGraph) :
    OnTrack background start g ⟨[], [start], g⟩ where
  entrance := rfl
  returns := rfl
  started := .inr (List.mem_singleton.mpr rfl)
  reaches n hn := by
    obtain rfl : n = start := by simpa using hn
    exact .refl
  pending _ _ hc := nomatch hc
  nodes n := by simp
  tags a b := by simp

/-- A node that was seen before can be left out of the stack. -/
theorem OnTrack.skip {seen stack : List NodeId} {graph : BehaviorGraph}
    (h : OnTrack background start g ⟨seen, current :: stack, graph⟩) (hseen : current ∈ seen) :
    OnTrack background start g ⟨seen, stack, graph⟩ := by
  have hmem : ∀ n, n ∈ seen ∨ n ∈ current :: stack ↔ n ∈ seen ∨ n ∈ stack := by
    intro n
    by_cases hn : n = current
    · subst hn
      simp [hseen]
    · simp [hn]
  exact { h with
    started := (hmem _).mp h.started
    reaches := fun n hn => h.reaches n ((hmem n).mpr hn)
    pending := fun n c hc hedge => (hmem n).mp (h.pending n c hc hedge) }

/-- A node that is new brings all that leads straight to it. -/
theorem OnTrack.expand {seen stack : List NodeId} {graph : BehaviorGraph}
    (h : OnTrack background start g ⟨seen, current :: stack, graph⟩) (hnew : current ∉ seen) :
    OnTrack background start g ⟨current :: seen, (background.predecessors current).reverse ++ stack,
      pullHeads background current graph⟩ := by
  have hmem : ∀ n, n ∈ current :: seen ∨ n ∈ (background.predecessors current).reverse ++ stack ↔
      (n ∈ seen ∨ n ∈ current :: stack) ∨ background.hasEdge n current = true := by
    intro n
    simp only [List.mem_append, List.mem_reverse, mem_predecessors, List.mem_cons]
    tauto
  have hcurrent : background.Reaches current start := h.reaches current (.inr List.mem_cons_self)
  refine
    { entrance := (pullHeads_kept ..).1.trans h.entrance
      returns := (pullHeads_kept ..).2.trans h.returns
      started := (hmem _).mpr (.inl h.started)
      reaches := fun n hn => ?_
      pending := fun n c hc hedge => (hmem n).mpr ?_
      nodes := fun n => ?_
      tags := fun a b => ?_ }
  · rcases (hmem n).mp hn with hold | hedge
    · exact h.reaches n hold
    · exact .head hedge hcurrent
  · rcases List.mem_cons.mp hc with rfl | hold
    · exact .inr hedge
    · exact .inl (h.pending n c hold hedge)
  · rw [mem_nodes_pullHeads, h.nodes n, or_assoc, List.exists_mem_cons_iff]
    exact or_congr_right or_comm
  · rw [tags?_pullHeads, h.tags a b]
    by_cases hb : b = current
    · subst hb
      simp [hnew]
    · simp [hb]

theorem OnTrack.next (h : OnTrack background start g p) (hnext : p.next? background = some q) :
    OnTrack background start g q := by
  obtain ⟨seen, _, graph⟩ := p
  obtain ⟨current, stack, rfl, ⟨hseen, rfl⟩ | ⟨hnew, rfl⟩⟩ := next?_eq_some hnext
  · exact h.skip hseen
  · exact h.expand hnew

theorem OnTrack.run (h : OnTrack background start g p) (hrun : Runs background p q) :
    OnTrack background start g q := by
  induction hrun with
  | refl => exact h
  | tail _ hnext ih => exact ih.next hnext

/-- Once the stack is empty, what has been seen is what leads to the start. -/
theorem OnTrack.seen_iff (h : OnTrack background start g p) (hend : p.stack = []) :
    n ∈ p.seen ↔ background.Reaches n start := by
  have hseen : ∀ n, n ∈ p.seen ∨ n ∈ p.stack → n ∈ p.seen := by simp [hend]
  constructor
  · exact fun hn => h.reaches n (.inl hn)
  · intro hn
    induction hn using ReflTransGen.head_induction_on with
    | refl => exact hseen start h.started
    | head hedge _ ih => exact hseen _ (h.pending _ _ ih hedge)

end Pull

/-! ### The whole search -/

/-- The steps of a search are enough if they are as many as the nodes on the stack and the edges
into nodes that were not seen. -/
theorem runs_pullFrom (background : BehaviorGraph) {steps : Nat} {seen stack : List NodeId}
    (hsteps : stack.length + (background.edges.keys.filter fun e => e.2 ∉ seen).length ≤ steps) :
    ∃ seen', Pull.Runs background ⟨seen, stack, g⟩
      ⟨seen', [], pullFrom background steps seen stack g⟩ := by
  fun_induction pullFrom background steps seen stack g with
  | case1 seen stack g =>
    obtain rfl : stack = [] := List.length_eq_zero_iff.mp (by omega)
    exact ⟨seen, .refl⟩
  | case2 _ seen g => exact ⟨seen, .refl⟩
  | case3 steps seen current stack g hseen ih =>
    obtain ⟨seen', hrun⟩ := ih (by simp at hsteps ⊢; omega)
    exact ⟨seen', .head (by simp [Pull.next?, hseen]) hrun⟩
  | case4 steps seen current stack g hnew heads ih =>
    have hunseen := length_filter_unseen Prod.snd background.edges.keys hnew
    rw [← Edges.length_predecessors] at hunseen
    have hheads : heads.length = (background.edges.predecessors current).length := rfl
    obtain ⟨seen', hrun⟩ := ih (by
      simp only [List.length_append, List.length_reverse, List.length_cons] at hsteps ⊢
      omega)
    exact ⟨seen', .head (by simp [Pull.next?, hnew, pullHeads, heads]) hrun⟩

theorem runs_pullPredecessors (g : BehaviorGraph) (start : NodeId) (background : BehaviorGraph) :
    ∃ seen, Pull.Runs background ⟨[], [start], g⟩ ⟨seen, [], g.pullPredecessors start background⟩ :=
  runs_pullFrom background (by simp [edgeCount, Table.size, Table.keys]; omega)

theorem transGen_iff_exists_reaches :
    TransGen (fun a b => g.hasEdge a b = true) n start ↔
      ∃ c, g.Reaches c start ∧ g.hasEdge n c = true := by
  rw [TransGen.head'_iff]
  exact exists_congr fun c => and_comm

/-- All that leads to a node comes over from another graph, and nothing else: the search comes to
its end, and then the nodes from which the start can be reached have come over, with the edges into
them and into the start. An edge that was there keeps its tags in front. -/
theorem pullPredecessors_ancestors (hbackground : background.WellFormed) (g : BehaviorGraph)
    (start : NodeId) :
    (∃ seen, Pull.Runs background ⟨[], [start], g⟩
      ⟨seen, [], g.pullPredecessors start background⟩) ∧
    (g.pullPredecessors start background).entrance = g.entrance ∧
    (g.pullPredecessors start background).returns = g.returns ∧
    (∀ n, n ∈ (g.pullPredecessors start background).nodes ↔
      n ∈ g.nodes ∨ TransGen (fun a b => background.hasEdge a b = true) n start) ∧
    (∀ head c tags, background.tags? head c = some tags → background.Reaches c start →
      (g.pullPredecessors start background).tags? head c =
        some ((g.tags? head c).getD [] ++ tags.filter (· ∉ (g.tags? head c).getD []))) ∧
    ∀ head c, ¬(background.hasEdge head c = true ∧ background.Reaches c start) →
      (g.pullPredecessors start background).tags? head c = g.tags? head c := by
  obtain ⟨seen, hrun⟩ := runs_pullPredecessors g start background
  have hend := (Pull.onTrack_start background start g).run hrun
  have hseen : ∀ n, n ∈ seen ↔ background.Reaches n start := fun n => hend.seen_iff rfl
  refine ⟨⟨seen, hrun⟩, hend.entrance, hend.returns, fun n => ?_, ?_, ?_⟩
  · rw [transGen_iff_exists_reaches, hend.nodes n]
    simp only [hseen]
  · intro head c tags htags hc
    rw [hend.tags head c, if_pos ((hseen c).mpr hc), htags,
      ← mergeTags_eq (hbackground.tags _ _ _ htags)]
    rfl
  · intro head c hnot
    rw [hend.tags head c]
    split
    · next hc =>
      have hnone : background.tags? head c = none := by
        rw [← Option.not_isSome_iff_eq_none]
        exact fun hedge => hnot ⟨hedge, (hseen c).mp hc⟩
      rw [hnone]
      rfl
    · rfl

/-- Two nodes that lead to each other. -/
def backAndForth : BehaviorGraph :=
  ((({ entrance := 7 } : BehaviorGraph).addNode 7).addEdge 7 8 ["CFG"]).addEdge 8 7 ["DDG: x"]

/-- A loop of two nodes that leads on to a third one, and to what comes after it. -/
def loopAhead : BehaviorGraph :=
  (backAndForth.addEdge 8 3 ["CFG", "DDG: x"]).addEdge 3 4 ["CFG"]

/-- The third node alone, with an edge from the loop that has one of the tags. -/
def afterLoop : BehaviorGraph :=
  ((({ entrance := 3 } : BehaviorGraph).addNode 3).addReturn 3).addEdge 8 3 ["DDG: x"]

theorem pullPredecessors_ancestors_loop :
    loopAhead.WellFormed ∧
    (∃ seen, Pull.Runs loopAhead ⟨[], [3], afterLoop⟩
      ⟨seen, [], afterLoop.pullPredecessors 3 loopAhead⟩) ∧
    TransGen (fun a b => loopAhead.hasEdge a b = true) 7 3 ∧
    7 ∈ (afterLoop.pullPredecessors 3 loopAhead).nodes ∧
    (afterLoop.pullPredecessors 3 loopAhead).tags? 8 3 = some ["DDG: x", "CFG"] ∧
    (afterLoop.pullPredecessors 3 loopAhead).tags? 8 7 = some ["DDG: x"] ∧
    (afterLoop.pullPredecessors 3 loopAhead).tags? 3 4 = none := by
  have hwell : loopAhead.WellFormed :=
    Made.wellFormed (.addEdge 3 4 _ (.addEdge 8 3 _ (.addEdge 8 7 _ (.addEdge 7 8 _
      (.addNode 7 (.new 7))))))
  have hreaches : loopAhead.Reaches 7 3 :=
    .head (b := 8) (by decide) (.single (by decide))
  have hway : TransGen (fun a b => loopAhead.hasEdge a b = true) 7 3 :=
    .head (b := 8) (by decide) (.single (by decide))
  obtain ⟨hrun, -, -, hnodes, htags, -⟩ := pullPredecessors_ancestors hwell afterLoop 3
  have hold : (afterLoop.pullPredecessors 3 loopAhead).tags? 8 3 = some ["DDG: x", "CFG"] :=
    htags 8 3 ["CFG", "DDG: x"] (by decide) .refl
  have hloop : (afterLoop.pullPredecessors 3 loopAhead).tags? 8 7 = some ["DDG: x"] :=
    htags 8 7 ["DDG: x"] (by decide) hreaches
  exact ⟨hwell, hrun, hway, (hnodes 7).mpr (.inr hway), hold, hloop, by decide⟩

end PackageVet.BehaviorGraph

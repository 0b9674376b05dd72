import PackageVet.Proofs.Reduced.Graph
import PackageVet.Proofs.Reduced.Search

/-! The search for data as a loop with a stack.

A round of the loop takes the next successor of the node on top of the stack, or takes the node off
when it has no more (`DataSearch.round?`). Nodes are visited again once they have been left, so the
set of visited nodes does not tell how far the loop has come. What does is the path: it has no node
twice and each of its nodes ends an edge, so it is never longer than there are edges, and the rounds
between putting a node on the stack and taking it off are those of a recursion that is bounded by
this (`DataSearch.frame_ends`). In all, the loop does what `dataFrom` does (`dataSearch_ends`). -/
namespace PackageVet

/-- One more way along an edge that is there. -/
def ReducedGraph.mergePath (r : ReducedGraph) (source target : NodeId) (path : List NodeId) :
    ReducedGraph :=
  match r.edge? source target with
  | some known =>
    let edge := { known with elided := mergeIds known.elided path }
    { r with edges := r.edges.insert (source, target) edge }
  | none => r

/-- Whether data is recorded to go from a node to another one of a category. -/
def ReducedGraph.Records (r : ReducedGraph) (start n : NodeId) (c : Category) : Prop :=
  r.category? n = some c ∧ ∃ elided, r.edge? start n = some ⟨.data, elided⟩

namespace ReducedGraph
variable {r : ReducedGraph} {start n : NodeId} {c : Category} {path : List NodeId}

/-- Merging a path into a find that was recorded is recording the find again. -/
theorem Records.mergePath_eq (h : r.Records start n c) :
    r.mergePath start n path = r.addData start ⟨n, c, path⟩ := by
  obtain ⟨hcategory, elided, hedge⟩ := h
  have hnode : r.addNode n c = r := by
    unfold addNode
    rw [Table.insert_of_get? hcategory]
  unfold addData
  dsimp only
  rw [hnode]
  unfold mergePath addEdge
  rw [hedge]
  rfl

theorem records_addData (r : ReducedGraph) (start n : NodeId) (c : Category) (path : List NodeId) :
    (r.addData start ⟨n, c, path⟩).Records start n c := by
  refine ⟨?_, ?_⟩
  · unfold addData
    rw [category?_addEdge, category?_addNode, if_pos rfl]
  · cases hedge : r.edge? start n with
    | none => exact ⟨_, edge?_addEdge_of_none hedge .data path⟩
    | some known =>
      refine ⟨mergeIds known.elided path, (edge?_addEdge_of_some hedge .data path).trans ?_⟩
      cases known.kind <;> rfl

theorem Records.addData (h : r.Records start n c) {f : Find} (hf : f.target ≠ n) :
    (r.addData start f).Records start n c := by
  obtain ⟨hcategory, elided, hedge⟩ := h
  refine ⟨?_, elided, ?_⟩
  · unfold ReducedGraph.addData
    rw [category?_addEdge, category?_addNode, if_neg hf.symm, hcategory]
  · unfold ReducedGraph.addData
    rw [edge?_addEdge_of_ne fun he => hf he.2.symm, edge?_addNode, hedge]

end ReducedGraph

namespace BehaviorGraph

/-! ### The loop -/

/-- Where a search for data stands. -/
structure DataSearch where
  visited : List NodeId
  path : List NodeId
  /-- The nodes that are being gone through, the last one first, each with the number of its
  successors that were taken. -/
  stack : List (NodeId × Nat)
  reduced : ReducedGraph

namespace DataSearch

def setOut (start : NodeId) (r : ReducedGraph) : DataSearch where
  visited := [start]
  path := []
  stack := [(start, 0)]
  reduced := r

/-- Takes a node off the stack; other nodes than the first one may then be visited again. -/
def leave (s : DataSearch) (start current : NodeId) (below : List (NodeId × Nat)) : DataSearch :=
  if current = start then { s with stack := below }
  else
    { s with
      stack := below
      path := s.path.dropLast
      visited := s.visited.filter (· ≠ current) }

/-- Comes to a node by an edge of data. -/
def meet (s : DataSearch) (category? : NodeId → Option Category) (start next : NodeId) :
    DataSearch :=
  if next ∈ s.visited then
    if next ≠ start ∧ (category? next).isSome then
      { s with reduced := s.reduced.mergePath start next s.path }
    else s
  else
    let s := { s with visited := next :: s.visited }
    match category? next with
    | some category => { s with reduced := s.reduced.addData start ⟨next, category, s.path⟩ }
    | none => { s with path := s.path ++ [next], stack := (next, 0) :: s.stack }

variable (g : BehaviorGraph) (category? : NodeId → Option Category) (start : NodeId)

/-- One round, unless the stack is empty. -/
def round? (s : DataSearch) : Option DataSearch :=
  match s.stack with
  | [] => none
  | (current, index) :: below =>
    match (g.successors current)[index]? with
    | none => some (s.leave start current below)
    | some next =>
      let s := { s with stack := (current, index + 1) :: below }
      if g.edgeKind? current next ≠ some .data then some s
      else some (s.meet category? start next)

/-- The loop after so many rounds, if it takes that many. -/
def after? : Nat → DataSearch → Option DataSearch
  | 0, s => some s
  | n + 1, s => (s.round? g category? start).bind (after? n)

theorem after?_add (m n : Nat) (s : DataSearch) :
    after? g category? start (m + n) s =
      (after? g category? start m s).bind (after? g category? start n) := by
  induction m generalizing s with
  | zero => rw [Nat.zero_add]; rfl
  | succ m ih =>
    rw [Nat.succ_add]
    simp only [after?]
    cases s.round? g category? start with
    | none => rfl
    | some s => exact ih s

theorem after?_succ (n : Nat) (s : DataSearch) :
    after? g category? start (n + 1) s =
      (after? g category? start n s).bind (round? g category? start) := by
  rw [after?_add]
  congr 1
  funext s
  exact Option.bind_fun_some _

/-- Whether the next round comes to a sensitive node by an edge of data. -/
def Meets (s : DataSearch) (id : NodeId) : Prop :=
  ∃ current index below, s.stack = (current, index) :: below ∧
    (g.successors current)[index]? = some id ∧ g.edgeKind? current id = some .data ∧
    (category? id).isSome

/-- All that a round can do. -/
inductive Round (s : DataSearch) : DataSearch → Prop where
  | leave {current index : Nat} {below : List (NodeId × Nat)} :
      s.stack = (current, index) :: below → (g.successors current)[index]? = none →
      Round s (s.leave start current below)
  | pass {current index next : Nat} {below : List (NodeId × Nat)} :
      s.stack = (current, index) :: below → (g.successors current)[index]? = some next →
      g.edgeKind? current next ≠ some .data →
      Round s { s with stack := (current, index + 1) :: below }
  | meet {current index next : Nat} {below : List (NodeId × Nat)} :
      s.stack = (current, index) :: below → (g.successors current)[index]? = some next →
      g.edgeKind? current next = some .data →
      Round s (meet { s with stack := (current, index + 1) :: below } category? start next)

variable {g category? start}
variable {s s' : DataSearch} {current index next : Nat} {below : List (NodeId × Nat)}

theorem round?_of_none (hstack : s.stack = (current, index) :: below)
    (hnone : (g.successors current)[index]? = none) :
    s.round? g category? start = some (s.leave start current below) := by
  unfold round?
  rw [hstack]
  dsimp only
  rw [hnone]

theorem round?_of_some (hstack : s.stack = (current, index) :: below)
    (hnext : (g.successors current)[index]? = some next) :
    s.round? g category? start =
      if g.edgeKind? current next ≠ some .data then
        some { s with stack := (current, index + 1) :: below }
      else some (meet { s with stack := (current, index + 1) :: below } category? start next) := by
  unfold round?
  rw [hstack]
  dsimp only
  rw [hnext]

theorem round_of_round? (h : s.round? g category? start = some s') :
    Round g category? start s s' := by
  cases hstack : s.stack with
  | nil =>
    unfold round? at h
    rw [hstack] at h
    cases h
  | cons frame below =>
    obtain ⟨current, index⟩ := frame
    cases hnext : (g.successors current)[index]? with
    | none =>
      rw [round?_of_none hstack hnext] at h
      cases h
      exact .leave hstack hnext
    | some next =>
      rw [round?_of_some hstack hnext] at h
      split at h
      · next hkind =>
        cases h
        exact .pass hstack hnext hkind
      · next hkind =>
        cases h
        exact .meet hstack hnext (Classical.not_not.mp hkind)

/-! ### What every round keeps -/

variable (g category? start) in
/-- What holds between two rounds, `met` being the sensitive nodes that the search came to so far.
These have been recorded and stay visited; the nodes of the path are not among them. -/
structure Consistent (met : NodeId → Prop) (s : DataSearch) : Prop where
  frames : s.stack = [] ∧ s.path = [] ∨ s.stack.map Prod.fst = (start :: s.path).reverse
  once : (start :: s.path).Nodup
  plain : ∀ n ∈ s.path, category? n = none
  linked : ∀ n ∈ s.path, ∃ m, n ∈ g.successors m
  visited : ∀ n, n ∈ s.visited ↔ n = start ∨ n ∈ s.path ∨ met n
  sensitive : ∀ n, met n → (category? n).isSome
  recorded : ∀ n c, met n → n ≠ start → category? n = some c → s.reduced.Records start n c

variable {met : NodeId → Prop}

theorem consistent_setOut (r : ReducedGraph) :
    Consistent g category? start (fun _ => False) (setOut start r) where
  frames := .inr rfl
  once := by simp [setOut]
  plain := nofun
  linked := nofun
  visited n := by simp [setOut]
  sensitive _ h := h.elim
  recorded _ _ h := h.elim

namespace Consistent

theorem length_le (h : Consistent g category? start met s) : s.path.length ≤ g.edgeCount :=
  Edges.length_le_size (List.nodup_cons.mp h.once).2 h.linked

theorem frames_of_cons (h : Consistent g category? start met s)
    (hstack : s.stack = (current, index) :: below) :
    (current :: below.map Prod.fst) = (start :: s.path).reverse := by
  have hframes := h.frames.resolve_left fun hempty => by simp [hstack] at hempty
  rwa [hstack] at hframes

/-- The nodes on the stack tell the path. -/
theorem path_eq {met' : NodeId → Prop} {index' : Nat} (h : Consistent g category? start met s)
    (h' : Consistent g category? start met' s') (hstack : s.stack = (current, index) :: below)
    (hstack' : s'.stack = (current, index') :: below) : s'.path = s.path := by
  have hframes := (h'.frames_of_cons hstack').symm.trans (h.frames_of_cons hstack)
  exact (List.cons.inj (List.reverse_inj.mp hframes)).2

/-- On top of the stack is the first node alone, or the last node of the path. -/
theorem top (h : Consistent g category? start met s)
    (hstack : s.stack = (current, index) :: below) :
    current = start ∧ s.path = [] ∧ below = [] ∨
      ∃ front, s.path = front ++ [current] ∧ current ≠ start ∧ current ∉ front ∧
        below.map Prod.fst = (start :: front).reverse := by
  have hframes := h.frames_of_cons hstack
  have honce := h.once
  rcases List.eq_nil_or_concat s.path with hpath | ⟨front, last, hpath⟩
  · rw [hpath] at hframes
    obtain ⟨hcurrent, hbelow⟩ := List.cons.inj hframes
    exact .inl ⟨hcurrent, hpath, List.map_eq_nil_iff.mp hbelow⟩
  · rw [List.concat_eq_append] at hpath
    rw [hpath, ← List.cons_append, List.reverse_append] at hframes
    obtain ⟨rfl, hbelow⟩ := List.cons.inj hframes
    rw [hpath, ← List.cons_append, List.nodup_append] at honce
    have hnew : current ∉ start :: front := fun hmem => honce.2.2 current hmem current (by simp) rfl
    exact .inr ⟨front, hpath, fun he => hnew (by simp [he]), fun hmem => hnew (by simp [hmem]),
      hbelow⟩

theorem path_eq_filter (h : Consistent g category? start met s) :
    s.path = (s.stack.reverse.map Prod.fst).filter (· ≠ start) := by
  rcases h.frames with ⟨hstack, hpath⟩ | hframes
  · rw [hstack, hpath]
    rfl
  · have hother : ∀ n ∈ s.path, decide (n ≠ start) = true := fun n hn =>
      decide_eq_true fun he => (List.nodup_cons.mp h.once).1 (he ▸ hn)
    rw [List.map_reverse, hframes, List.reverse_reverse, List.filter_cons_of_neg (by simp),
      List.filter_eq_self.mpr hother]

theorem met_congr {met' : NodeId → Prop} (h : Consistent g category? start met s)
    (hmet : ∀ n, met n ↔ met' n) : Consistent g category? start met' s := by
  obtain rfl : met = met' := funext fun n => propext (hmet n)
  exact h

theorem leave (h : Consistent g category? start met s)
    (hstack : s.stack = (current, index) :: below) :
    Consistent g category? start met (s.leave start current below) := by
  unfold DataSearch.leave
  rcases h.top hstack with ⟨hcurrent, hpath, hbelow⟩ | ⟨front, hpath, hne, hfront, hbelow⟩
  · rw [if_pos hcurrent]
    exact ⟨.inl ⟨hbelow, hpath⟩, h.once, h.plain, h.linked, h.visited, h.sensitive, h.recorded⟩
  · have hsub : front ⊆ s.path := fun n hn => hpath ▸ List.mem_append_left _ hn
    have hplain : category? current = none := h.plain current (by simp [hpath])
    rw [if_neg hne, hpath, List.dropLast_concat]
    refine ⟨.inr hbelow, ?_, fun n hn => h.plain n (hsub hn), fun n hn => h.linked n (hsub hn), ?_,
      h.sensitive, h.recorded⟩
    · have honce := h.once
      rw [hpath, ← List.cons_append] at honce
      exact (List.nodup_append.mp honce).1
    · intro n
      rw [List.mem_filter, h.visited, hpath, List.mem_append, List.mem_singleton,
        decide_eq_true_eq]
      constructor
      · rintro ⟨hn | (hn | hn) | hn, hother⟩
        · exact .inl hn
        · exact .inr (.inl hn)
        · exact absurd hn hother
        · exact .inr (.inr hn)
      · rintro (rfl | hn | hn)
        · exact ⟨.inl rfl, hne.symm⟩
        · exact ⟨.inr (.inl (.inl hn)), fun he => hfront (he ▸ hn)⟩
        · refine ⟨.inr (.inr hn), fun he => ?_⟩
          -- a node of the path is not sensitive
          have hsome := h.sensitive n hn
          rw [he, hplain] at hsome
          cases hsome

/-- Taking a successor leaves the node on the stack. -/
theorem take (h : Consistent g category? start met s)
    (hstack : s.stack = (current, index) :: below) :
    Consistent g category? start met { s with stack := (current, index + 1) :: below } :=
  ⟨.inr (h.frames_of_cons hstack), h.once, h.plain, h.linked, h.visited, h.sensitive, h.recorded⟩

theorem recorded_addData (h : Consistent g category? start met s) {c : Category}
    (hc : category? next = some c) {n : NodeId} {c' : Category} (hmet : met n ∨ n = next)
    (hn : n ≠ start) (hc' : category? n = some c') :
    (s.reduced.addData start ⟨next, c, s.path⟩).Records start n c' := by
  by_cases he : n = next
  · subst he
    cases hc.symm.trans hc'
    exact ReducedGraph.records_addData ..
  · exact (h.recorded n c' (hmet.resolve_right he) hn hc').addData (Ne.symm he)

/-- A sensitive node other than the first one is visited because the search came to it. -/
theorem met_of_visited (h : Consistent g category? start met s) (hvisited : next ∈ s.visited)
    (hne : next ≠ start) (hsome : (category? next).isSome) : met next := by
  rcases (h.visited next).mp hvisited with hstart | hpath | hmet
  · exact absurd hstart hne
  · rw [h.plain next hpath] at hsome
    cases hsome
  · exact hmet

theorem meet_visited (h : Consistent g category? start met s) (hvisited : next ∈ s.visited) :
    Consistent g category? start (fun n => met n ∨ n = next ∧ (category? next).isSome)
      (s.meet category? start next) := by
  unfold DataSearch.meet
  rw [if_pos hvisited]
  by_cases hagain : next ≠ start ∧ (category? next).isSome
  · obtain ⟨c, hc⟩ := Option.isSome_iff_exists.mp hagain.2
    have hmet : met next := h.met_of_visited hvisited hagain.1 hagain.2
    rw [if_pos hagain, (h.recorded next c hmet hagain.1 hc).mergePath_eq]
    have hagain : Consistent g category? start met
        { s with reduced := s.reduced.addData start ⟨next, c, s.path⟩ } :=
      ⟨h.frames, h.once, h.plain, h.linked, h.visited, h.sensitive,
        fun n c' hn => h.recorded_addData hc (.inl hn)⟩
    exact hagain.met_congr fun n =>
      ⟨.inl, fun hn => hn.elim (fun hn => hn) fun hn => hn.1 ▸ hmet⟩
  · rw [if_neg hagain]
    have hstart : (category? next).isSome → next = start := fun hsome =>
      Classical.byContradiction fun hne => hagain ⟨hne, hsome⟩
    refine ⟨h.frames, h.once, h.plain, h.linked, fun n => ?_, ?_, ?_⟩
    · rw [h.visited]
      constructor
      · exact fun hn => hn.imp_right (.imp_right .inl)
      · rintro (hn | hn | hn | ⟨rfl, hsome⟩)
        · exact .inl hn
        · exact .inr (.inl hn)
        · exact .inr (.inr hn)
        · exact .inl (hstart hsome)
    · rintro n (hn | ⟨rfl, hsome⟩)
      · exact h.sensitive n hn
      · exact hsome
    · rintro n c (hn | ⟨rfl, hsome⟩) hne hc
      · exact h.recorded n c hn hne hc
      · exact absurd (hstart hsome) hne

theorem meet_new (h : Consistent g category? start met s)
    (hframes : s.stack.map Prod.fst = (start :: s.path).reverse)
    (hlink : ∃ m, next ∈ g.successors m) (hnew : next ∉ s.visited) :
    Consistent g category? start (fun n => met n ∨ n = next ∧ (category? next).isSome)
      (s.meet category? start next) := by
  have hother : next ∉ start :: s.path := by
    intro hmem
    refine hnew ((h.visited next).mpr ?_)
    exact (List.mem_cons.mp hmem).imp_right .inl
  unfold DataSearch.meet
  rw [if_neg hnew]
  cases hc : category? next with
  | some c =>
    refine ⟨h.frames, h.once, h.plain, h.linked, fun n => ?_, ?_, ?_⟩
    · rw [List.mem_cons, h.visited]
      grind
    · rintro n (hn | ⟨rfl, -⟩)
      · exact h.sensitive n hn
      · rw [hc]; rfl
    · exact fun n c' hn => h.recorded_addData hc (hn.imp_right And.left)
  | none =>
    suffices hentered : Consistent g category? start met
        { s with
          visited := next :: s.visited
          path := s.path ++ [next]
          stack := (next, 0) :: s.stack } from
      hentered.met_congr fun n => by simp
    refine ⟨.inr ?_, ?_, ?_, ?_, fun n => ?_, h.sensitive, h.recorded⟩
    · show next :: s.stack.map Prod.fst = (start :: (s.path ++ [next])).reverse
      rw [hframes, ← List.cons_append, List.reverse_append]
      rfl
    · rw [← List.cons_append, List.nodup_append]
      refine ⟨h.once, by simp, fun a ha b hb => ?_⟩
      rw [List.mem_singleton.mp hb]
      exact fun he => hother (he ▸ ha)
    · intro n hn
      rcases List.mem_append.mp hn with hn | hn
      · exact h.plain n hn
      · rw [List.mem_singleton.mp hn, hc]
    · intro n hn
      rcases List.mem_append.mp hn with hn | hn
      · exact h.linked n hn
      · rw [List.mem_singleton.mp hn]
        exact hlink
    · simp only [List.mem_cons, List.mem_append, h.visited]
      grind

/-- A round keeps what holds between rounds, with the sensitive node that it came to, if any. -/
theorem round (h : Consistent g category? start met s) (hround : Round g category? start s s') :
    Consistent g category? start (fun n => met n ∨ s.Meets g category? n) s' := by
  cases hround with
  | @leave current index below hstack hnone =>
    refine (h.leave hstack).met_congr fun n => ⟨.inl, ?_⟩
    rintro (hn | ⟨_, _, _, hstack', hsome, -, -⟩)
    · exact hn
    · cases hstack.symm.trans hstack'
      rw [hnone] at hsome
      cases hsome
  | @pass current index next below hstack hnext hkind =>
    refine (h.take hstack).met_congr fun n => ⟨.inl, ?_⟩
    rintro (hn | ⟨_, _, _, hstack', hsome, hdata, -⟩)
    · exact hn
    · cases hstack.symm.trans hstack'
      cases hnext.symm.trans hsome
      exact absurd hdata hkind
  | @meet current index next below hstack hnext hkind =>
    have hmeet : Consistent g category? start (fun n => met n ∨ n = next ∧ (category? next).isSome)
        (DataSearch.meet { s with stack := (current, index + 1) :: below }
          category? start next) := by
      by_cases hvisited : next ∈ s.visited
      · exact (h.take hstack).meet_visited hvisited
      · exact (h.take hstack).meet_new (h.frames_of_cons hstack)
          ⟨current, List.mem_of_getElem? hnext⟩ hvisited
    refine hmeet.met_congr fun n => or_congr_right ?_
    constructor
    · rintro ⟨rfl, hsome⟩
      exact ⟨current, index, below, hstack, hnext, hkind, hsome⟩
    · rintro ⟨_, _, _, hstack', hnext', -, hsome⟩
      cases hstack.symm.trans hstack'
      cases hnext.symm.trans hnext'
      exact ⟨rfl, hsome⟩

theorem after (h : Consistent g category? start met s) {n : Nat}
    (hafter : after? g category? start n s = some s') :
    Consistent g category? start (fun id => met id ∨ ∃ m < n, ∃ t,
      after? g category? start m s = some t ∧ t.Meets g category? id) s' := by
  induction n generalizing s' with
  | zero =>
    cases hafter
    exact h.met_congr fun id => by simp
  | succ n ih =>
    rw [after?_succ] at hafter
    obtain ⟨t, ht, hround⟩ := Option.bind_eq_some_iff.mp hafter
    refine ((ih ht).round (round_of_round? hround)).met_congr fun id => ?_
    constructor
    · rintro ((hid | ⟨m, hm, rest⟩) | hmeets)
      · exact .inl hid
      · exact .inr ⟨m, Nat.lt_succ_of_lt hm, rest⟩
      · exact .inr ⟨n, Nat.lt_succ_self n, t, ht, hmeets⟩
    · rintro (hid | ⟨m, hm, u, hu, hmeets⟩)
      · exact .inl (.inl hid)
      · rcases Nat.lt_succ_iff_lt_or_eq.mp hm with hlt | rfl
        · exact .inl (.inr ⟨m, hlt, u, hu, hmeets⟩)
        · cases ht.symm.trans hu
          exact .inr hmeets

end Consistent

end DataSearch

/-! ### The loop ends -/

namespace DataSearch
variable {g : BehaviorGraph} {category? : NodeId → Option Category} {start : NodeId}
variable {met : NodeId → Prop} {s s' : DataSearch} {current index next : Nat}
  {below : List (NodeId × Nat)}

/-- Coming to a node again does what the recursion does there. -/
theorem meet_again (h : Consistent g category? start met s)
    (hkind : g.edgeKind? current next = some .data) (hvisited : next ∈ s.visited) :
    (s.meet category? start next).stack = s.stack ∧
      ∀ depth, (s.meet category? start next).reduced =
        g.follow category? start depth s.path current s.reduced next := by
  unfold meet follow
  simp only [if_pos hvisited, if_neg (Classical.not_not.mpr hkind)]
  by_cases hagain : next ≠ start ∧ (category? next).isSome
  · obtain ⟨c, hc⟩ := Option.isSome_iff_exists.mp hagain.2
    have hmet := h.met_of_visited hvisited hagain.1 hagain.2
    have hother : ¬ (next = start ∨ next ∈ s.path) := by
      rintro (hstart | hpath)
      · exact hagain.1 hstart
      · rw [h.plain next hpath] at hc
        cases hc
    rw [if_pos hagain]
    refine ⟨rfl, fun depth => ?_⟩
    rw [if_neg hother, hc]
    exact (h.recorded next c hmet hagain.1 hc).mergePath_eq
  · have hseen : next = start ∨ next ∈ s.path := by
      rcases (h.visited next).mp hvisited with hstart | hpath | hmet
      · exact .inl hstart
      · exact .inr hpath
      · exact .inl (Classical.byContradiction fun hne => hagain ⟨hne, h.sensitive next hmet⟩)
    rw [if_neg hagain]
    exact ⟨rfl, fun depth => (if_pos hseen).symm⟩

/-- Coming to a new node does what the recursion does there, or puts the node on the stack from
which the recursion goes on. -/
theorem meet_first (h : Consistent g category? start met s)
    (hkind : g.edgeKind? current next = some .data) (hnew : next ∉ s.visited) :
    (s.meet category? start next).stack = s.stack ∧
        (∀ depth, (s.meet category? start next).reduced =
          g.follow category? start depth s.path current s.reduced next) ∨
      (s.meet category? start next).stack = (next, 0) :: s.stack ∧
        (s.meet category? start next).path = s.path ++ [next] ∧
        ∀ depth, g.follow category? start depth s.path current s.reduced next =
          g.dataFrom category? start depth (s.meet category? start next).path next
            (s.meet category? start next).reduced := by
  have hother : ¬ (next = start ∨ next ∈ s.path) := fun hseen =>
    hnew ((h.visited next).mpr (hseen.imp_right .inl))
  unfold meet follow
  simp only [if_neg hnew, if_neg (Classical.not_not.mpr hkind), if_neg hother]
  cases category? next with
  | some c => exact .inl ⟨rfl, fun _ => rfl⟩
  | none => exact .inr ⟨rfl, rfl, fun _ => rfl⟩

theorem round?_takes (h : Consistent g category? start met s)
    (hstack : s.stack = (current, index) :: below)
    (hnext : (g.successors current)[index]? = some next) :
    ∃ s', s.round? g category? start = some s' ∧
      (s'.stack = (current, index + 1) :: below ∧
          (∀ depth, s'.reduced = g.follow category? start depth s.path current s.reduced next) ∨
        s'.stack = (next, 0) :: (current, index + 1) :: below ∧ s'.path = s.path ++ [next] ∧
          ∀ depth, g.follow category? start depth s.path current s.reduced next =
            g.dataFrom category? start depth s'.path next s'.reduced) := by
  rw [round?_of_some hstack hnext]
  by_cases hkind : g.edgeKind? current next = some .data
  · rw [if_neg (Classical.not_not.mpr hkind)]
    refine ⟨_, rfl, ?_⟩
    by_cases hvisited : next ∈ s.visited
    · exact .inl (meet_again (h.take hstack) hkind hvisited)
    · exact meet_first (h.take hstack) hkind hvisited
  · rw [if_pos hkind]
    exact ⟨_, rfl, .inl ⟨rfl, fun depth => (if_pos hkind).symm⟩⟩

/-- A node that has no more successors is taken off the stack. -/
theorem round?_leaves (hstack : s.stack = (current, index) :: below)
    (hnone : (g.successors current)[index]? = none) :
    ∃ s', s.round? g category? start = some s' ∧ s'.stack = below ∧ s'.reduced = s.reduced := by
  refine ⟨_, round?_of_none hstack hnone, ?_⟩
  unfold leave
  split <;> exact ⟨rfl, rfl⟩

/-- The loop goes through the successors of a node as the recursion does, if it does so with every
node that it puts on the stack there. -/
theorem successors_end {depth : Nat} {path : List NodeId}
    (hdeeper : ∀ {met : NodeId → Prop} {s : DataSearch} {next : NodeId}
      {below : List (NodeId × Nat)}, Consistent g category? start met s →
      s.stack = (next, 0) :: below → s.path = path ++ [next] →
      ∃ n s', after? g category? start n s = some s' ∧ s'.stack = below ∧
        s'.reduced = g.dataFrom category? start depth s.path next s.reduced)
    (h : Consistent g category? start met s) (hpath : s.path = path)
    (hstack : s.stack = (current, index) :: below) :
    ∃ n s', after? g category? start n s = some s' ∧ s'.stack = below ∧
      s'.reduced = ((g.successors current).drop index).foldl
        (g.follow category? start depth path current) s.reduced := by
  generalize hrest : (g.successors current).drop index = rest
  induction rest generalizing s met index with
  | nil =>
    have hnone : (g.successors current)[index]? = none := by
      rw [← List.head?_drop, hrest]
      rfl
    obtain ⟨s', hround, hstack', hreduced⟩ := round?_leaves hstack hnone
    refine ⟨1, s', ?_, hstack', hreduced⟩
    rw [after?, hround]
    rfl
  | cons next rest ih =>
    have hnext : (g.successors current)[index]? = some next := by
      rw [← List.head?_drop, hrest]
      rfl
    have hdrop : (g.successors current).drop (index + 1) = rest := by
      rw [← List.tail_drop, hrest]
      rfl
    obtain ⟨s₁, hround, htakes⟩ := round?_takes h hstack hnext
    have h₁ := h.round (round_of_round? hround)
    rcases htakes with ⟨hstack₁, hreduced₁⟩ | ⟨hstack₁, hpath₁, hreduced₁⟩
    · obtain ⟨n, s', hafter, hstack', hreduced⟩ :=
        ih h₁ ((h.path_eq h₁ hstack hstack₁).trans hpath) hstack₁ hdrop
      refine ⟨n + 1, s', ?_, hstack', ?_⟩
      · rw [after?, hround]
        exact hafter
      · rw [hreduced, hreduced₁ depth, hpath]
        rfl
    · -- the node is gone through, and then the stack is as before
      obtain ⟨m, s₂, hafter₁, hstack₂, hreduced₂⟩ := hdeeper h₁ hstack₁ (by rw [hpath₁, hpath])
      have h₂ := h₁.after hafter₁
      obtain ⟨n, s', hafter₂, hstack', hreduced⟩ :=
        ih h₂ ((h.path_eq h₂ hstack hstack₂).trans hpath) hstack₂ hdrop
      refine ⟨m + n + 1, s', ?_, hstack', ?_⟩
      · rw [after?, hround]
        show after? g category? start (m + n) s₁ = some s'
        rw [after?_add, hafter₁]
        exact hafter₂
      · rw [hreduced, hreduced₂, ← hreduced₁ depth, hpath]
        rfl

/-- The loop comes to the end of what is on top of the stack, with what the recursion gives. The
path grows with the depth, and it is never longer than there are edges. -/
theorem frame_ends (depth : Nat) (h : Consistent g category? start met s)
    (hstack : s.stack = (current, index) :: below)
    (hdepth : g.edgeCount < s.path.length + (depth + 1)) :
    ∃ n s', after? g category? start n s = some s' ∧ s'.stack = below ∧
      s'.reduced = ((g.successors current).drop index).foldl
        (g.follow category? start depth s.path current) s.reduced := by
  induction depth generalizing s met current index below with
  | zero =>
    refine successors_end (fun h' _ hpath' => ?_) h rfl hstack
    have hlen := h'.length_le
    rw [hpath', List.length_append, List.length_singleton] at hlen
    omega
  | succ depth ih =>
    refine successors_end (fun h' hstack' hpath' => ?_) h rfl hstack
    rw [dataFrom_succ]
    refine ih h' hstack' ?_
    rw [hpath', List.length_append, List.length_singleton]
    omega

end DataSearch

/-- **The search for data ends.** From any node of any graph, the loop comes to an empty stack, with
the reduced graph that `dataFrom` gives. Before each of its rounds the path is the stack without the
first node, in order; no node is on the path twice; and the visited nodes are the first node, those
of the path, and the sensitive nodes that earlier rounds came to. -/
theorem dataSearch_ends (g : BehaviorGraph) (category? : NodeId → Option Category) (start : NodeId)
    (r : ReducedGraph) :
    (∃ n s, DataSearch.after? g category? start n (.setOut start r) = some s ∧
      s.round? g category? start = none ∧ s.stack = [] ∧
      s.reduced = g.dataFrom category? start (g.edgeCount + 1) [] start r) ∧
    ∀ n s, DataSearch.after? g category? start n (.setOut start r) = some s →
      s.path = (s.stack.reverse.map Prod.fst).filter (· ≠ start) ∧ s.path.Nodup ∧
      ∀ id, id ∈ s.visited ↔ id = start ∨ id ∈ s.path ∨ ∃ m < n, ∃ t,
        DataSearch.after? g category? start m (.setOut start r) = some t ∧
          t.Meets g category? id := by
  have hstart : DataSearch.Consistent g category? start (fun _ => False) (.setOut start r) :=
    DataSearch.consistent_setOut r
  constructor
  · have hfirst : (DataSearch.setOut start r).stack = [(start, 0)] := rfl
    obtain ⟨n, s, hafter, hstack, hreduced⟩ :=
      DataSearch.frame_ends g.edgeCount hstart hfirst (by simp [DataSearch.setOut])
    refine ⟨n, s, hafter, ?_, hstack, hreduced.trans (dataFrom_succ ..).symm⟩
    unfold DataSearch.round?
    rw [hstack]
  · intro n s hafter
    have h := hstart.after hafter
    refine ⟨h.path_eq_filter, (List.nodup_cons.mp h.once).2, fun id => ?_⟩
    rw [h.visited]
    simp only [false_or]

end BehaviorGraph

end PackageVet

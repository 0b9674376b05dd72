import Mathlib.Logic.Relation
import PackageVet.Proofs.Build.Steps
import PackageVet.Proofs.Checked

/-! The moments of a walk over a unit.

A walk goes from one `Moment` to the next, each time taking the first entry off its stack (`Goes`).
The steps that a build allows are enough for it: a walk that succeeds goes on until its stack is
empty (`goes_of_walk`, `passes_of_build`).

A walk that has come to its end has been at every node that can be reached from the entrance of the
unit, and has taken every edge that starts at such a node (`visits_of_end`,
`takes_of_end`). -/
namespace PackageVet

/-- Whether a node can be reached from the entrance of a unit over the unit's edges. -/
def CodeUnit.Reaches (u : CodeUnit) (n : NodeId) : Prop :=
  Relation.ReflTransGen (fun a b => b ∈ u.successors a) u.id n

namespace Building

/-- Where a walk stands. -/
structure Moment (σ : Type) where
  visited : List NodeId
  stack : List (NodeId × Option NodeId)
  graph : BehaviorGraph
  state : BuildState
  services : σ

variable {σ : Type} {c : BuildContext σ} {nested : Nested σ} {u : CodeUnit}

/-- Whether the time allows another step, and what checking it does to the services. -/
def InTime (c : BuildContext σ) (services services' : σ) : Prop :=
  c.deadline.check.run services = (.ok ⟨⟩, services')

/-- One step of a walk. -/
inductive Goes (c : BuildContext σ) (nested : Nested σ) (u : CodeUnit) :
    Moment σ → Moment σ → Prop where
  /-- To a node for the first time. -/
  | first {visited : List NodeId} {current : NodeId} {former : Option NodeId}
      {stack : List (NodeId × Option NodeId)} {g g' : BehaviorGraph} {s s' : BuildState}
      {services services₁ services' : σ} :
      current ∉ visited → InTime c services services₁ →
      (firstVisit c nested u current former (g.addNode current)).run (s, services₁) =
        (.ok g', s', services') →
      Goes c nested u ⟨visited, (current, former) :: stack, g, s, services⟩
        ⟨current :: visited,
          (orderedSuccessors s'.arena u current).map (·, some current) ++ stack, g', s', services'⟩
  /-- To a node again, over an edge. -/
  | again {visited : List NodeId} {current former : NodeId} {stack : List (NodeId × Option NodeId)}
      {g : BehaviorGraph} {s : BuildState} {services services' : σ} :
      current ∈ visited → InTime c services services' →
      Goes c nested u ⟨visited, (current, some former) :: stack, g, s, services⟩
        ⟨visited, stack, revisit s.arena u former current g, s, services'⟩
  /-- To a node again, not over an edge. -/
  | skip {visited : List NodeId} {current : NodeId} {stack : List (NodeId × Option NodeId)}
      {g : BehaviorGraph} {s : BuildState} {services services' : σ} :
      current ∈ visited → InTime c services services' →
      Goes c nested u ⟨visited, (current, none) :: stack, g, s, services⟩
        ⟨visited, stack, g, s, services'⟩

/-- The next moment of a walk, if there is one. -/
def Moment.next? (c : BuildContext σ) (nested : Nested σ) (u : CodeUnit) (m : Moment σ) :
    Option (Moment σ) :=
  match m.stack, c.deadline.check.run m.services with
  | [], _ | _ :: _, (.error _, _) => none
  | (current, former) :: stack, (.ok ⟨⟩, services) =>
    if current ∈ m.visited then
      match former with
      | some former =>
        some { m with stack, graph := revisit m.state.arena u former current m.graph, services }
      | none => some { m with stack, services }
    else
      match (firstVisit c nested u current former (m.graph.addNode current)).run
        (m.state, services) with
      | (.ok graph, state, services) =>
        let next := orderedSuccessors state.arena u current
        some
          { visited := current :: m.visited, stack := next.map (·, some current) ++ stack
            graph, state, services }
      | (.error _, _) => none

theorem goes_of_next? {m m' : Moment σ} (h : m.next? c nested u = some m') :
    Goes c nested u m m' := by
  obtain ⟨visited, stack, g, s, services⟩ := m
  unfold Moment.next? at h
  dsimp only at h
  split at h
  · cases h
  · cases h
  · next hcheck =>
    split at h
    · next hv =>
      split at h
      · cases h
        exact .again hv hcheck
      · cases h
        exact .skip hv hcheck
    · next hn =>
      split at h
      · next hrun =>
        cases h
        exact .first hn hcheck hrun
      · cases h

/-- Some steps of a walk, one after another. -/
abbrev Going (c : BuildContext σ) (nested : Nested σ) (u : CodeUnit) :
    Moment σ → Moment σ → Prop :=
  Relation.ReflTransGen (Goes c nested u)

theorem InTime.unique {services x y : σ} (hx : InTime c services x) (hy : InTime c services y) :
    x = y := by
  have heq := hx.symm.trans hy
  cases heq
  rfl

/-- There is one next moment at most. -/
theorem Goes.unique {m m₁ m₂ : Moment σ} (h₁ : Goes c nested u m m₁) (h₂ : Goes c nested u m m₂) :
    m₁ = m₂ := by
  cases h₁ with
  | first hn htime hrun =>
    cases h₂ with
    | first _ htime' hrun' =>
      cases htime.unique htime'
      rw [hrun] at hrun'
      cases hrun'
      rfl
    | again hv => exact absurd hv hn
    | skip hv => exact absurd hv hn
  | again hv htime =>
    cases h₂ with
    | first hn => exact absurd hv hn
    | again _ htime' => rw [htime.unique htime']
  | skip hv htime =>
    cases h₂ with
    | first hn => exact absurd hv hn
    | skip _ htime' => rw [htime.unique htime']

/-- The moment that comes last is after every other. -/
theorem going_last {start m last : Moment σ} (hm : Going c nested u start m)
    (hlast : Going c nested u start last) (hend : last.stack = []) : Going c nested u m last := by
  have hunique : Relator.RightUnique (Goes c nested u) := fun _ _ _ h₁ h₂ => h₁.unique h₂
  rcases Relation.ReflTransGen.total_of_right_unique hunique hm hlast with h | h
  · exact h
  · rcases Relation.ReflTransGen.cases_head h with rfl | ⟨next, hgoes, -⟩
    · exact .refl
    · cases hgoes <;> cases hend

/-! ### Enough steps -/

theorem orderedSuccessors_perm (arena : Arena) (u : CodeUnit) (current : NodeId) :
    (orderedSuccessors arena u current).Perm (u.successors current) := by
  unfold orderedSuccessors
  simp only [List.partition_eq_filter_filter]
  refine ((Sorted.orderBy_perm arena.line _).append_left _).trans ?_
  exact List.perm_append_comm.trans (List.filter_append_perm _ _)

theorem mem_orderedSuccessors {arena : Arena} {s t : NodeId} :
    t ∈ orderedSuccessors arena u s ↔ t ∈ u.successors s :=
  (orderedSuccessors_perm arena u s).mem_iff

/-- The edges from nodes that were not visited. -/
def unvisitedEdges (u : CodeUnit) (visited : List NodeId) : Nat :=
  (u.edges.keys.filter fun e => e.1 ∉ visited).length

theorem unvisitedEdges_cons {visited : List NodeId} {current : NodeId} (h : current ∉ visited) :
    (u.successors current).length + unvisitedEdges u (current :: visited) =
      unvisitedEdges u visited := by
  rw [CodeUnit.successors, Edges.length_successors]
  exact length_filter_unseen Prod.fst u.edges.keys h

/-- The steps that a build gives to a walk are enough for the way in and for all edges. -/
theorem enough_steps (u : CodeUnit) : 1 + unvisitedEdges u [] ≤ u.edges.size + 1 := by
  have hle : unvisitedEdges u [] ≤ u.edges.keys.length := List.length_filter_le ..
  have hkeys : u.edges.keys.length = u.edges.size := List.length_map ..
  omega

/-- A check leaves the state of the build alone. -/
theorem run_check (s : BuildState) (services : σ) :
    (∃ services', InTime c services services' ∧
      (check c).run (s, services) = (.ok ⟨⟩, s, services')) ∨
    ∃ limit services', (check c).run (s, services) = (.error (.timeout limit), s, services') := by
  unfold check
  rw [Effect.run_onSecond]
  rcases c.deadline.check_cases services with ⟨services', hrun⟩ | ⟨limit, services', -, hrun⟩
  · exact .inl ⟨services', hrun, by rw [hrun]⟩
  · exact .inr ⟨limit, services', by rw [hrun]⟩

theorem run_check_eq_ok {s s' : BuildState} {services services' : σ}
    (h : (check c).run (s, services) = (.ok ⟨⟩, s', services')) :
    s' = s ∧ InTime c services services' := by
  rcases run_check (c := c) s services with ⟨_, htime, hrun⟩ | ⟨limit, _, hrun⟩
  · rw [hrun] at h
    cases h
    exact ⟨rfl, htime⟩
  · rw [hrun] at h
    cases h

/-- A walk that succeeds, with steps for its stack and for all edges that it has not come to, goes
on until its stack is empty. -/
theorem goes_of_walk {steps : Nat} {m : Moment σ} {g : BehaviorGraph} {s' : BuildState}
    {services' : σ} (hsteps : m.stack.length + unvisitedEdges u m.visited ≤ steps)
    (h : (walk c nested u steps m.visited m.stack m.graph).run (m.state, m.services) =
      (.ok g, s', services')) :
    ∃ visited, Going c nested u m ⟨visited, [], g, s', services'⟩ := by
  induction steps generalizing m with
  | zero =>
    obtain ⟨visited, stack, graph, s, services⟩ := m
    cases stack with
    | nil =>
      cases h
      exact ⟨visited, .refl⟩
    | cons entry stack =>
      simp only [List.length_cons] at hsteps
      omega
  | succ steps ih =>
    obtain ⟨visited, stack, graph, s, services⟩ := m
    cases stack with
    | nil =>
      cases h
      exact ⟨visited, .refl⟩
    | cons entry stack =>
      obtain ⟨current, former⟩ := entry
      simp only [List.length_cons] at hsteps
      simp only [walk] at h
      obtain ⟨⟨⟩, ⟨s₁, services₁⟩, hcheck, hrest⟩ := Effect.run_bind_eq_ok.mp h
      obtain ⟨rfl, htime⟩ := run_check_eq_ok hcheck
      by_cases hv : current ∈ visited
      · rw [if_pos hv] at hrest
        cases former with
        | some former =>
          obtain ⟨s₂, s₃, hstate, hrest⟩ := Effect.run_bind_eq_ok.mp hrest
          cases hstate
          obtain ⟨visited', hgo⟩ := ih
            (m := ⟨visited, stack, revisit s₁.arena u former current graph, s₁, services₁⟩)
            (by simp only; omega) hrest
          exact ⟨visited', .head (.again hv htime) hgo⟩
        | none =>
          obtain ⟨visited', hgo⟩ := ih (m := ⟨visited, stack, graph, s₁, services₁⟩)
            (by simp only; omega) hrest
          exact ⟨visited', .head (.skip hv htime) hgo⟩
      · rw [if_neg hv] at hrest
        obtain ⟨g₁, ⟨s₂, services₂⟩, hfirst, hrest⟩ := Effect.run_bind_eq_ok.mp hrest
        obtain ⟨s₃, s₄, hstate, hrest⟩ := Effect.run_bind_eq_ok.mp hrest
        cases hstate
        -- the edges from the node change places: they are on the stack now
        have hcount := unvisitedEdges_cons (u := u) hv
        have hlength := (orderedSuccessors_perm s₂.arena u current).length_eq
        obtain ⟨visited', hgo⟩ := ih
          (m := ⟨current :: visited,
            (orderedSuccessors s₂.arena u current).map (·, some current) ++ stack, g₁, s₂,
            services₂⟩)
          (by simp only [List.length_append, List.length_map]; omega) hrest
        exact ⟨visited', .head (.first hv htime hfirst) hgo⟩

/-! ### The walk of a build -/

/-- The unit that was put in at a node, as far as is known at a moment. -/
def Moment.callee? (m : Moment σ) (id : NodeId) : Option CalleeLink :=
  (m.state.arena.get? id).bind ProgramNode.callee

def Moment.start (u : CodeUnit) (s : BuildState) (services : σ) : Moment σ :=
  { visited := [], stack := [(u.id, none)], graph := { entrance := u.id }, state := s, services }

/-- The builder of the units that the build of a unit puts in. -/
def inner (c : BuildContext σ) : Nested σ := buildWithin c (maxDepth c - 1)

/-- Whether the build of a unit, from a state on, comes by a moment. -/
def Passes (c : BuildContext σ) (u : CodeUnit) (s : BuildState) (services : σ) (m : Moment σ) :
    Prop :=
  Going c (inner c) u (.start u s services) m

/-- A build that succeeds, however deep units may be put in, comes by the moment at which nothing is
left to go to. -/
theorem going_of_buildWithin {depth : Nat} {s s' : BuildState} {services services' : σ}
    {g : BehaviorGraph} (hu : c.index.get? u.id = some u)
    (h : (buildWithin c (depth + 1) u.id).run (s, services) = (.ok g, s', services')) :
    ∃ visited, Going c (buildWithin c depth) u (.start u s services)
      ⟨visited, [], g, s', services'⟩ := by
  have hbuild : buildWithin c (depth + 1) u.id = walk c (buildWithin c depth) u (u.edges.size + 1)
      [] [(u.id, none)] { entrance := u.id } := by
    rw [buildWithin, hu]
  rw [hbuild] at h
  exact goes_of_walk (m := .start u s services) (enough_steps u) h

theorem passes_of_build {s s' : BuildState} {services services' : σ} {g : BehaviorGraph}
    (hu : c.index.get? u.id = some u)
    (h : (build c u.id).run (s, services) = (.ok g, s', services')) :
    ∃ visited, Passes c u s services ⟨visited, [], g, s', services'⟩ := by
  have hdepth : build c u.id = buildWithin c (maxDepth c - 1 + 1) u.id := rfl
  rw [hdepth] at h
  exact going_of_buildWithin hu h

/-! ### Nothing is lost on the way -/

section Trail
variable {m m' start : Moment σ} (hnested : ∀ id, Leaves BuildState.SameCode (nested id))
include hnested

theorem Goes.partOf (h : Goes c nested u m m') : m.graph.PartOf m'.graph := by
  cases h with
  | @first _ current former _ g g' _ _ _ _ _ hn _ hrun =>
    have hkeeps := keeps_firstVisit stable_sameCode hnested c u current former (g.addNode current)
    exact (g.partOf_addNode current).trans (hkeeps.value _ _ g' (congrArg Prod.fst hrun))
  | again => exact (moreInto_revisit ..).part
  | skip => exact .refl _

theorem Goes.sameCode (h : Goes c nested u m m') : m.state.SameCode m'.state := by
  cases h with
  | @first _ current former _ g _ _ _ _ _ _ hn _ hrun =>
    have hkeeps := keeps_firstVisit stable_sameCode hnested c u current former (g.addNode current)
    exact hkeeps.state_of_run hrun
  | again => exact stable_sameCode.refl _
  | skip => exact stable_sameCode.refl _

theorem Going.partOf (h : Going c nested u m m') : m.graph.PartOf m'.graph := by
  induction h with
  | refl => exact .refl _
  | tail _ hgoes ih => exact ih.trans (hgoes.partOf hnested)

theorem Going.sameCode (h : Going c nested u m m') : m.state.SameCode m'.state := by
  induction h with
  | refl => exact stable_sameCode.refl _
  | tail _ hgoes ih => exact stable_sameCode.trans ih (hgoes.sameCode hnested)

omit hnested

theorem Goes.visited (h : Goes c nested u m m') : m.visited ⊆ m'.visited := by
  cases h with
  | first => exact List.subset_cons_self ..
  | again => exact List.Subset.refl _
  | skip => exact List.Subset.refl _

theorem Going.visited (h : Going c nested u m m') : m.visited ⊆ m'.visited := by
  induction h with
  | refl => exact List.Subset.refl _
  | tail _ hgoes ih => exact List.Subset.trans ih hgoes.visited

/-- A walk goes only where the edges of its unit lead. -/
theorem reaches_of_going {s : BuildState} {services : σ}
    (h : Going c nested u (.start u s services) m) :
    (∀ n ∈ m.visited, u.Reaches n) ∧ ∀ entry ∈ m.stack, u.Reaches entry.1 := by
  induction h with
  | refl =>
    refine ⟨fun n hn => absurd hn List.not_mem_nil, fun entry hentry => ?_⟩
    cases List.mem_singleton.mp hentry
    exact .refl
  | tail _ hgoes ih =>
    obtain ⟨hvisited, hstack⟩ := ih
    cases hgoes with
    | @first _ current =>
      have hcurrent : u.Reaches current := hstack _ (List.mem_cons_self ..)
      refine ⟨List.forall_mem_cons.mpr ⟨hcurrent, hvisited⟩, fun entry hentry => ?_⟩
      rcases List.mem_append.mp hentry with hentry | hentry
      · obtain ⟨next, hnext, rfl⟩ := List.mem_map.mp hentry
        exact hcurrent.tail (mem_orderedSuccessors.mp hnext)
      · exact hstack entry (List.mem_cons_of_mem _ hentry)
    | again => exact ⟨hvisited, fun entry hentry => hstack entry (List.mem_cons_of_mem _ hentry)⟩
    | skip => exact ⟨hvisited, fun entry hentry => hstack entry (List.mem_cons_of_mem _ hentry)⟩

/-- Whether a walk has taken an edge of the unit on the way to a moment: between two moments, the
first of which has the edge on top of its stack. -/
def Takes (c : BuildContext σ) (nested : Nested σ) (u : CodeUnit) (start : Moment σ) (s t : NodeId)
    (m : Moment σ) : Prop :=
  ∃ before after, Going c nested u start before ∧ before.stack.head? = some (t, some s) ∧
    Goes c nested u before after ∧ Going c nested u after m

/-- What holds at every moment of a walk from its start. -/
structure OnTrack (c : BuildContext σ) (nested : Nested σ) (u : CodeUnit) (start m : Moment σ) :
    Prop where
  nodes : m.visited ⊆ m.graph.nodes
  /-- Only edges of the unit are on the stack, but for the way in. -/
  edges : ∀ s t, (t, some s) ∈ m.stack → s ∈ m.visited ∧ t ∈ u.successors s
  entered : u.id ∈ m.visited ∨ m.stack = [(u.id, none)]
  /-- Every edge from a visited node is on the stack or has been taken. -/
  taken : ∀ s ∈ m.visited, ∀ t ∈ u.successors s,
    (t, some s) ∈ m.stack ∨ Takes c nested u start s t m

theorem Takes.tail {s t : NodeId} (h : Takes c nested u start s t m)
    (hgoes : Goes c nested u m m') : Takes c nested u start s t m' := by
  obtain ⟨before, after, hb, htop, hstep, ha⟩ := h
  exact ⟨before, after, hb, htop, hstep, ha.tail hgoes⟩

/-- What was on the stack and is not any more has been taken. -/
theorem takes_of_top {visited : List NodeId} {entry : NodeId × Option NodeId}
    {stack : List (NodeId × Option NodeId)} {g : BehaviorGraph} {st : BuildState} {services : σ}
    {s t : NodeId} (hm : Going c nested u start ⟨visited, entry :: stack, g, st, services⟩)
    (hgoes : Goes c nested u ⟨visited, entry :: stack, g, st, services⟩ m')
    (hin : (t, some s) ∈ entry :: stack) :
    (t, some s) ∈ stack ∨ Takes c nested u start s t m' := by
  rcases List.mem_cons.mp hin with rfl | hin
  · exact .inr ⟨_, _, hm, rfl, hgoes, .refl⟩
  · exact .inl hin

theorem onTrack_start (s : BuildState) (services : σ) :
    OnTrack c nested u (.start u s services) (.start u s services) where
  nodes := List.nil_subset _
  edges s t h := by
    rcases List.mem_singleton.mp h with ⟨⟩
  entered := .inr rfl
  taken s h := by cases h

include hnested

theorem OnTrack.goes (h : OnTrack c nested u start m) (hm : Going c nested u start m)
    (hgoes : Goes c nested u m m') : OnTrack c nested u start m' := by
  have hpart := hgoes.partOf hnested
  have hstep := hgoes
  cases hgoes with
  | @first visited current former stack g g' s s' _ _ _ hn _ hrun =>
    constructor
    · intro n hnode
      rcases List.mem_cons.mp hnode with rfl | hnode
      · have hkeeps := keeps_firstVisit stable_sameCode hnested c u n former (g.addNode n)
        exact (hkeeps.value _ _ g' (congrArg Prod.fst hrun)).nodes
          (BehaviorGraph.mem_nodes_addNode.mpr (.inr rfl))
      · exact hpart.nodes (h.nodes hnode)
    · intro a b hab
      rcases List.mem_append.mp hab with hab | hab
      · obtain ⟨next, hnext, heq⟩ := List.mem_map.mp hab
        cases heq
        exact ⟨List.mem_cons_self .., mem_orderedSuccessors.mp hnext⟩
      · have hedge := h.edges a b (List.mem_cons_of_mem _ hab)
        exact ⟨List.mem_cons_of_mem _ hedge.1, hedge.2⟩
    · left
      rcases h.entered with hu | hstack
      · exact List.mem_cons_of_mem _ hu
      · cases hstack
        exact List.mem_cons_self ..
    · intro a ha b hb
      rcases List.mem_cons.mp ha with rfl | ha
      · exact .inl (List.mem_append_left _
          (List.mem_map.mpr ⟨b, mem_orderedSuccessors.mpr hb, rfl⟩))
      · rcases h.taken a ha b hb with hin | htakes
        · exact (takes_of_top hm hstep hin).imp_left (List.mem_append_right _)
        · exact .inr (htakes.tail hstep)
  | again hv =>
    refine ⟨fun n hnode => hpart.nodes (h.nodes hnode), fun a b hab => ?_, ?_, fun a ha b hb => ?_⟩
    · exact h.edges a b (List.mem_cons_of_mem _ hab)
    · rcases h.entered with hu | hstack
      · exact .inl hu
      · cases hstack
    · rcases h.taken a ha b hb with hin | htakes
      · exact takes_of_top hm hstep hin
      · exact .inr (htakes.tail hstep)
  | skip hv =>
    refine ⟨h.nodes, fun a b hab => ?_, ?_, fun a ha b hb => ?_⟩
    · exact h.edges a b (List.mem_cons_of_mem _ hab)
    · rcases h.entered with hu | hstack
      · exact .inl hu
      · cases hstack
        exact .inl hv
    · rcases h.taken a ha b hb with hin | htakes
      · exact takes_of_top hm hstep hin
      · exact .inr (htakes.tail hstep)

theorem onTrack_of_going {s : BuildState} {services : σ}
    (h : Going c nested u (.start u s services) m) :
    OnTrack c nested u (.start u s services) m := by
  induction h with
  | refl => exact onTrack_start s services
  | tail hgoing hgoes ih => exact ih.goes hnested hgoing hgoes

/-- A walk that has come to its end has been at every node that can be reached. -/
theorem visits_of_end {s : BuildState} {services : σ} {n : NodeId}
    (h : Going c nested u (.start u s services) m) (hend : m.stack = [])
    (hn : u.Reaches n) : n ∈ m.visited := by
  have htrack := onTrack_of_going hnested h
  induction hn with
  | refl =>
    rcases htrack.entered with hu | hstack
    · exact hu
    · rw [hend] at hstack
      cases hstack
  | @tail a b _ hab ih =>
    rcases htrack.taken a ih b hab with hin | ⟨before, after, -, htop, hgoes, hafter⟩
    · rw [hend] at hin
      cases hin
    · -- taking an edge leads to its target
      refine hafter.visited ?_
      cases hgoes with
      | first =>
        cases htop
        exact List.mem_cons_self ..
      | again hv =>
        cases htop
        exact hv
      | skip => cases htop

/-- A walk that has come to its end has taken every edge from a node that can be reached. -/
theorem takes_of_end {s : BuildState} {services : σ} {a b : NodeId}
    (h : Going c nested u (.start u s services) m) (hend : m.stack = [])
    (ha : u.Reaches a)
    (hb : b ∈ u.successors a) : Takes c nested u (.start u s services) a b m := by
  rcases (onTrack_of_going hnested h).taken a (visits_of_end hnested h hend ha) b hb with hin | ht
  · rw [hend] at hin
    cases hin
  · exact ht

end Trail

theorem leaves_inner (c : BuildContext σ) (id : NodeId) :
    Leaves BuildState.SameCode (inner c id) :=
  leaves_buildWithin stable_sameCode c (maxDepth c - 1) id

/-- A unit is part of its own graph. -/
theorem id_mem_nodes_of_buildWithin {depth : Nat} {s s' : BuildState} {services services' : σ}
    {g : BehaviorGraph} (hu : c.index.get? u.id = some u)
    (h : (buildWithin c depth u.id).run (s, services) = (.ok g, s', services')) :
    u.id ∈ g.nodes := by
  cases depth with
  | zero => cases h
  | succ depth =>
    obtain ⟨visited, hgoing⟩ := going_of_buildWithin hu h
    have hnested := leaves_buildWithin stable_sameCode c depth
    exact (onTrack_of_going hnested hgoing).nodes (visits_of_end hnested hgoing rfl .refl)

end Building

end PackageVet

import PackageVet.Proofs.Build.Sample
import PackageVet.Proofs.Build.Simulation

/-! Building a unit again.

A build with fresh names still finds the marks that earlier builds left on the nodes. Side by side
with an earlier build it therefore goes the same way (`sim_walk`, `sim_buildWithin`): it comes to
the same nodes, puts the same units in and leaves the same calls marked. Only where a build looks at
a mark before it sets it can an edge differ, and such an edge leads into a node that takes returned
values. A second build has set all its marks already, so from then on the graph stays as it is
(`rebuild_settles`). -/
namespace PackageVet

/-! ### Nodes that take returned values -/

/-- Whether a state still has all nodes that take returned values. -/
def BuildState.StillTakes (s s' : BuildState) : Prop :=
  ∀ t, s.arena.takesReturns t = true → s'.arena.takesReturns t = true

theorem Arena.takesReturns_modify {a : Arena} {id t : NodeId} {change : ProgramNode → ProgramNode}
    (hcode : ∀ n, (change n).unmarked = n.unmarked)
    (hcallee : ∀ n : ProgramNode, n.callee.isSome → (change n).callee.isSome)
    (h : a.takesReturns t = true) : Arena.takesReturns (a.modify id change) t = true := by
  have hvalue := congrFun (takesValue_of_unmarked (funext (a.unmarked_modify id hcode))) t
  unfold takesReturns at h ⊢
  rw [hvalue]
  rcases Bool.or_eq_true_iff.mp h with h | h
  · rw [h, Bool.true_or]
  · suffices hmark : (mark (a.modify id change) ProgramNode.callee t).isSome = true by
      rw [hmark, Bool.or_true]
    unfold mark at h ⊢
    rw [Table.get?_modify]
    split
    · cases hn : a.get? t with
      | none => simp [hn] at h
      | some n => exact hcallee n (by simpa [hn] using h)
    · exact h

theorem stable_stillTakes : Stable BuildState.StillTakes where
  refl _ _ h := h
  trans h h' t ht := h' t (h t ht)
  note s id change h t ht := Arena.takesReturns_modify (fun n => (h n).1)
    (fun n hn => by rwa [(h n).2.2]) ht
  refuse _ _ _ h := h
  declare _ _ _ h := h
  mark s id change h t ht := Arena.takesReturns_modify (fun n => (h n).1) (fun n => (h n).2) ht
  inline i s s' h t ht := by
    rw [i.arena_leave]
    exact h t (by rwa [i.arena_enter])

namespace Building
variable {σ α β : Type} {A B : Arena} {g₁ g₂ : BehaviorGraph} {s₁ s₂ s₁' s₂' : BuildState}

/-! ### Graphs and states -/

/-- Whether two builds have come to like states and like graphs: edges may differ only into nodes
that take returned values. -/
structure Alike (A B : Arena) (g₁ g₂ : BehaviorGraph) (s₁ s₂ : BuildState) : Prop where
  state : s₁.Like A B s₂
  graph : g₁.Like (A.calls = B.calls)
    (fun t => s₁.arena.takesReturns t = false ∧ s₂.arena.takesReturns t = false) g₂

theorem Alike.later (h : Alike A B g₁ g₂ s₁ s₂) (hstate : s₁'.Like A B s₂')
    (h₁ : s₁.StillTakes s₁') (h₂ : s₂.StillTakes s₂') : Alike A B g₁ g₂ s₁' s₂' where
  state := hstate
  graph := h.graph.mono fun t ht =>
    ⟨Bool.eq_false_iff.mpr fun h => Bool.eq_false_iff.mp ht.1 (h₁ t h),
      Bool.eq_false_iff.mpr fun h => Bool.eq_false_iff.mp ht.2 (h₂ t h)⟩

theorem Alike.enter (h : Alike A B g₁ g₂ s₁ s₂) (i : Inlining) :
    Alike A B g₁ g₂ (i.enter s₁) (i.enter s₂) :=
  h.later (h.state.enter i) (fun t ht => by rwa [i.arena_enter])
    (fun t ht => by rwa [i.arena_enter])

theorem Alike.leave (h : Alike A B g₁ g₂ s₁ s₂) (i : Inlining) :
    Alike A B g₁ g₂ (i.leave s₁) (i.leave s₂) :=
  h.later (h.state.leave i) (fun t ht => by rwa [i.arena_leave])
    (fun t ht => by rwa [i.arena_leave])

theorem Alike.note (h : Alike A B g₁ g₂ s₁ s₂) (i : Inlining) (inner : BehaviorGraph)
    (call : NodeId) :
    Alike A B g₁ g₂ (s₁.updateNode call (i.note inner)) (s₂.updateNode call (i.note inner)) := by
  have hstill := fun s => stable_stillTakes.mark s call (i.note inner) fun n =>
    ⟨i.unmarked_note inner n, i.isSome_callee_note inner⟩
  exact h.later (h.state.note i inner call) (hstill s₁) (hstill s₂)

theorem Alike.map {h₁ h₂ : BehaviorGraph} (h : Alike A B g₁ g₂ s₁ s₂)
    (hmap : ∀ {fixed}, g₁.Like (A.calls = B.calls) fixed g₂ →
      h₁.Like (A.calls = B.calls) fixed h₂) : Alike A B h₁ h₂ s₁ s₂ :=
  ⟨h.state, hmap h.graph⟩

section Rules
variable {m₁ : Building σ α} {m₂ : Building σ β} {P : BuildState → BuildState → Prop}
  {Q T : α → β → BuildState → BuildState → Prop}

/-- Graphs that are alike stay so during steps that have nothing to do with them. -/
theorem Sim.frame (g₁ g₂ : BehaviorGraph) (h : Sim (BuildState.Like A B) m₁ m₂ Q)
    (hQ : ∀ a b s₁ s₂, Q a b s₁ s₂ → s₁.Like A B s₂)
    (h₁ : Leaves BuildState.StillTakes m₁) (h₂ : Leaves BuildState.StillTakes m₂) :
    Sim (Alike A B g₁ g₂) m₁ m₂ fun a b s₁ s₂ => Q a b s₁ s₂ ∧ Alike A B g₁ g₂ s₁ s₂ where
  run {s₁ s₂ services₁ services₂ _ _ _} halike hrun := by
    obtain ⟨b, s₂', services₂', hrun', hpost⟩ := h.run halike.state hrun
    have hstill₁ := h₁.state s₁ services₁
    have hstill₂ := h₂.state s₂ services₂
    rw [hrun] at hstill₁
    rw [hrun'] at hstill₂
    exact ⟨b, s₂', services₂', hrun', hpost, halike.later (hQ _ _ _ _ hpost) hstill₁ hstill₂⟩

theorem Sim.restoring (h : Sim P m₁ m₂ Q) {restore : BuildState → BuildState}
    (hrestore : ∀ a b s₁ s₂, Q a b s₁ s₂ → T a b (restore s₁) (restore s₂)) :
    Sim P (restoring m₁ restore) (restoring m₂ restore) T where
  run {s₁ s₂ services₁ services₂ a s₁' services₁'} hP hrun := by
    rw [run_restoring] at hrun
    rcases hfirst : m₁.run (s₁, services₁) with ⟨_ | a', t₁, services⟩ <;> rw [hfirst] at hrun
    · cases hrun
    · cases hrun
      obtain ⟨b, t₂, services₂', hsecond, hpost⟩ := h.run hP hfirst
      refine ⟨b, restore t₂, services₂', ?_, hrestore _ _ _ _ hpost⟩
      rw [run_restoring, hsecond]

end Rules

/-! ### Walks -/

section Walks
variable {c : BuildContext σ} {nested : Nested σ}
  (hnested : ∀ id, Sim (BuildState.Like A B) (nested id) (nested id) (Alike A B))
  (hstill : ∀ id, Leaves BuildState.StillTakes (nested id))
include hnested hstill

theorem sim_putIn (call : NodeId) (i? : Option Inlining) :
    Sim (Alike A B g₁ g₂) (putIn nested call g₁ i?) (putIn nested call g₂ i?) (Alike A B) := by
  cases i? with
  | none => exact sim_pure fun _ _ h => h
  | some i =>
    -- the graph so far waits while the unit's own graph is built
    have hinner : Sim (Alike A B g₁ g₂) (restoring (nested i.unit.id) i.leave)
        (restoring (nested i.unit.id) i.leave) fun inner₁ inner₂ s₁ s₂ =>
          Alike A B inner₁ inner₂ s₁ s₂ ∧ Alike A B g₁ g₂ s₁ s₂ :=
      (Sim.frame g₁ g₂ (hnested i.unit.id) (fun _ _ _ _ h => h.state) (hstill i.unit.id)
        (hstill i.unit.id)).restoring fun _ _ _ _ h => ⟨h.1.leave i, h.2.leave i⟩
    unfold putIn
    refine Sim.bind (sim_change (R := Alike A B g₁ g₂) fun s₁ s₂ h => h.enter i) fun _ _ => ?_
    refine Sim.bind hinner fun inner₁ inner₂ => ?_
    refine Sim.bind (sim_change (R := fun s₁ s₂ =>
      Alike A B inner₁ inner₂ s₁ s₂ ∧ Alike A B g₁ g₂ s₁ s₂) fun s₁ s₂ h => ?_) fun _ _ => ?_
    · have hnote : i.note inner₁ = i.note inner₂ := by
        funext call
        unfold Inlining.note
        rw [h.1.graph.entrance, h.1.graph.returns]
      rw [hnote]
      exact ⟨h.1.note i inner₂ call, h.2.note i inner₂ call⟩
    · refine sim_pure fun s₁ s₂ h => ⟨h.2.state, ?_⟩
      rw [h.1.graph.entrance]
      exact (h.2.graph.addEdge ..).join h.1.graph

omit hnested hstill in
theorem sim_operation (hc : c.knowledge.Fixed) (u : CodeUnit) (node : ProgramNode)
    (former : Option NodeId) (hname : A.name node.id = node.name) :
    Sim (Alike A B g₁ g₂) (operation c u node former g₁) (operation c u node former g₂)
      fun r₁ r₂ s₁ s₂ => r₁.2 = r₂.2 ∧ Alike A B r₁.1 r₂.1 s₁ s₂ where
  run {s₁ s₂ services₁ services₂ r₁ s₁' services₁'} halike hrun := by
    have hfixed : ∀ t, s₁.arena.takesReturns t = false ∧ s₂.arena.takesReturns t = false →
        A.takesValue t = false := by
      intro t ht
      rw [← Arena.takesValue_of_unmarked halike.state.code₁]
      exact (Bool.or_eq_false_iff.mp ht.1).1
    obtain ⟨r₂, s₂', services₂', hrun', ⟨hgraph, hunit⟩, hlike⟩ :=
      (agrees_operation u node halike.graph hc former hname hfixed).run halike.state hrun
    have hstill₁ :=
      (keeps_operation stable_stillTakes.toShallow c u node g₁ former).state s₁ services₁
    have hstill₂ :=
      (keeps_operation stable_stillTakes.toShallow c u node g₂ former).state s₂ services₂
    rw [hrun] at hstill₁
    rw [hrun'] at hstill₂
    exact ⟨r₂, s₂', services₂', hrun', hunit,
      (Alike.mk halike.state hgraph).later hlike hstill₁ hstill₂⟩

/-- What a known node adds when the walk comes to it first. -/
def visitNode (c : BuildContext σ) (nested : Nested σ) (u : CodeUnit) (current : NodeId)
    (former : Option NodeId) (g : BehaviorGraph) (node : ProgramNode) :
    Building σ BehaviorGraph := do
  if node.entrance then return g
  match node.kind with
  | "RETURN" =>
    change fun s => s.updateNode current fun n => { n with returnValue := true }
    return (g.addReturn current).linkIncoming u former current
  | "METHOD_PARAMETER_IN" =>
    if node.name ≠ "this" then
      change fun s => s.declare
        { name := node.name, line := node.line, node := some current, file := node.file }
    return g.linkIncoming u former current
  | "CALL" =>
    let (g, called?) ← operation c u node former g
    putIn nested current (← putIn nested current g called?) (lambdaArgument? c node)
  | _ => return g.linkIncoming u former current

omit hnested hstill in
theorem firstVisit_eq (u : CodeUnit) (current : NodeId) (former : Option NodeId)
    (g : BehaviorGraph) : firstVisit c nested u current former g = (do
      match ← node? current with
      | none => return g
      | some node => visitNode c nested u current former g node) := by
  unfold firstVisit visitNode
  rfl

omit hnested hstill in
/-- The marks of the node itself are not looked at. -/
theorem visitNode_unmarked (u : CodeUnit) (current : NodeId) (former : Option NodeId)
    (g : BehaviorGraph) (node : ProgramNode) :
    visitNode c nested u current former g node =
      visitNode c nested u current former g node.unmarked := by
  unfold visitNode
  rfl

theorem sim_visitNode (hc : c.knowledge.Fixed) (u : CodeUnit) (former : Option NodeId)
    (node : ProgramNode) (hname : A.name node.id = node.name) :
    Sim (Alike A B g₁ g₂) (visitNode c nested u node.id former g₁ node)
      (visitNode c nested u node.id former g₂ node) (Alike A B) := by
  have hincoming : Sim (Alike A B g₁ g₂) (pure (g₁.linkIncoming u former node.id) : Building σ _)
      (pure (g₂.linkIncoming u former node.id)) (Alike A B) :=
    sim_pure fun _ _ h => h.map fun hg => hg.linkIncoming ..
  unfold visitNode
  split
  · exact sim_pure fun _ _ h => h
  · split
    · refine Sim.bind (sim_change (R := Alike A B g₁ g₂) fun s₁ s₂ h => ?_) fun _ _ => ?_
      · have hview := fun s => BuildState.quiet_sameView.note s node.id
          (fun n => { n with returnValue := true }) fun _ => ⟨rfl, rfl, rfl⟩
        have hstill := fun s => stable_stillTakes.mark s node.id
          (fun n => { n with returnValue := true }) fun _ => ⟨rfl, fun h => h⟩
        exact h.later (h.state.view (hview s₁) (hview s₂)) (hstill s₁) (hstill s₂)
      · exact sim_pure fun _ _ h => h.map fun hg => (hg.addReturn _).linkIncoming ..
    · dsimp only
      split
      · refine Sim.bind (sim_change (R := Alike A B g₁ g₂) fun s₁ s₂ h => ?_) fun _ _ => hincoming
        exact h.later (h.state.declare rfl) (fun _ ht => ht) fun _ ht => ht
      · exact hincoming
    · refine Sim.bind (sim_operation hc u node former hname) fun r₁ r₂ => Sim.fact fun hunit => ?_
      dsimp only
      rw [hunit]
      exact Sim.bind (sim_putIn hnested hstill _ _) fun _ _ => sim_putIn hnested hstill _ _
    · exact hincoming

omit hnested hstill in
theorem sim_node? (id : NodeId) :
    Sim (Alike A B g₁ g₂) (node? id : Building σ _) (node? id : Building σ _) fun n₁ n₂ s₁ s₂ =>
      Option.Rel (fun n₁ n₂ => n₁.unmarked = n₂.unmarked ∧ n₁.id = id ∧ A.name id = n₁.name) n₁ n₂ ∧
        Alike A B g₁ g₂ s₁ s₂ := by
  refine Sim.bind sim_state fun t₁ t₂ => sim_pure fun s₁ s₂ hstate => ?_
  obtain ⟨⟨rfl, rfl⟩, h⟩ := hstate
  refine ⟨?_, h⟩
  have hrel := h.state.get? id
  have hknown : ∀ n, t₁.arena.get? id = some n → n.id = id ∧ A.name id = n.name :=
    fun _ => h.state.known
  generalize t₁.arena.get? id = n₁ at hrel hknown ⊢
  generalize t₂.arena.get? id = n₂ at hrel ⊢
  cases hrel with
  | none => exact .none
  | some hn => exact .some ⟨hn.code, hknown _ rfl⟩

theorem sim_firstVisit (hc : c.knowledge.Fixed) (u : CodeUnit) (current : NodeId)
    (former : Option NodeId) :
    Sim (Alike A B g₁ g₂) (firstVisit c nested u current former g₁)
      (firstVisit c nested u current former g₂) (Alike A B) := by
  rw [firstVisit_eq, firstVisit_eq]
  refine Sim.bind (sim_node? current) fun n₁ n₂ => Sim.fact fun hnode => ?_
  cases hnode with
  | none => exact sim_pure fun _ _ h => h
  | @some n₁ n₂ hnode =>
    obtain ⟨hcode, rfl, hname⟩ := hnode
    dsimp only
    rw [visitNode_unmarked u n₁.id former g₂ n₂, ← hcode, ← visitNode_unmarked]
    exact sim_visitNode hnested hstill hc u former n₁ hname

omit hnested hstill in
/-- Coming again to a node that takes no returned values adds the edge itself. -/
theorem revisit_eq_addEdge {a : Arena} (hassigned : A.AssignedIn a)
    (hcode : a.unmarked = A.unmarked) (u : CodeUnit) (former : NodeId) {current : NodeId}
    (h : a.takesReturns current = false)
    (g : BehaviorGraph) :
    revisit a u former current g =
      g.addEdge former current (u.incomingTags (some former) current) := by
  obtain ⟨hvalue, hcallee⟩ := Bool.or_eq_false_iff.mp h
  obtain ⟨hassign, hformat⟩ := Bool.or_eq_false_iff.mp hvalue
  unfold revisit
  cases a.get? former with
  | none => rfl
  | some source =>
    cases htarget : a.get? current with
    | none => rfl
    | some target =>
      have hname : target.name = a.name current := by rw [Arena.name, htarget]; rfl
      have hkind : target.callKind ≠ some .assignment := by
        intro hkind
        have hmarked := hassigned current (by rw [Arena.mark, htarget]; exact hkind)
        rw [← Arena.name_of_unmarked hcode] at hmarked
        exact of_decide_eq_false hassign hmarked
      have hno : target.callee.isSome = false := by
        rw [Arena.mark, htarget] at hcallee
        exact hcallee
      simp [hname, of_decide_eq_false hformat, hkind, hno]

omit hnested hstill in
/-- Coming again to a node looks at marks of calls alone. -/
theorem revisit_of_calls {a b : Arena} (h : a.calls = b.calls) (u : CodeUnit)
    (former current : NodeId) (g : BehaviorGraph) :
    revisit a u former current g = revisit b u former current g := by
  have hformer := rel_of_map_eq (congrFun h former)
  have hcurrent := rel_of_map_eq (congrFun h current)
  unfold revisit
  generalize a.get? former = source₁ at hformer ⊢
  generalize b.get? former = source₂ at hformer ⊢
  generalize a.get? current = target₁ at hcurrent ⊢
  generalize b.get? current = target₂ at hcurrent ⊢
  cases hformer with
  | none => rfl
  | @some source₁ source₂ hsource =>
    cases hcurrent with
    | none => rfl
    | @some target₁ target₂ htarget =>
      cases source₁
      cases source₂
      cases hsource
      cases target₁
      cases target₂
      cases htarget
      rfl

omit hnested hstill in
theorem Alike.revisit (h : Alike A B g₁ g₂ s₁ s₂) (u : CodeUnit) (former current : NodeId) :
    Alike A B (Building.revisit s₁.arena u former current g₁)
      (Building.revisit s₂.arena u former current g₂) s₁ s₂ := by
  refine ⟨h.state, ?_⟩
  by_cases hplain : s₁.arena.takesReturns current = false ∧ s₂.arena.takesReturns current = false
  · rw [revisit_eq_addEdge h.state.assigned₁ h.state.code₁ u former hplain.1,
      revisit_eq_addEdge h.state.assigned₂ h.state.code₂ u former hplain.2]
    exact h.graph.addEdge ..
  · refine h.graph.into hplain (moreInto_revisit ..) (moreInto_revisit ..) fun hsettled => ?_
    rw [h.graph.same hsettled, revisit_of_calls (h.state.calls hsettled)]

theorem sim_walk (hc : c.knowledge.Fixed) (hdeadline : c.deadline = .unlimited) (u : CodeUnit)
    (steps : Nat) (visited : List NodeId) (stack : List (NodeId × Option NodeId)) :
    Sim (Alike A B g₁ g₂) (walk c nested u steps visited stack g₁)
      (walk c nested u steps visited stack g₂) (Alike A B) := by
  have hcheck : check c = pure ⟨⟩ := by
    rw [check, hdeadline]
    rfl
  induction steps generalizing visited stack g₁ g₂ with
  | zero =>
    cases stack with
    | nil => exact sim_pure fun _ _ h => h
    | cons => exact ⟨fun _ hrun => by cases hrun⟩
  | succ steps ih =>
    match stack with
    | [] => exact sim_pure fun _ _ h => h
    | (current, former) :: stack =>
      unfold walk
      rw [hcheck]
      refine Sim.bind (sim_pure fun _ _ h => h : Sim (Alike A B g₁ g₂) _ _ fun _ _ =>
        Alike A B g₁ g₂) fun _ _ => ?_
      split
      · split
        · refine Sim.bind sim_state fun t₁ t₂ => ⟨fun h hrun => ?_⟩
          obtain ⟨⟨rfl, rfl⟩, halike⟩ := h
          exact (ih _ _).run (halike.revisit ..) hrun
        · exact ih _ _
      · have hadd : Sim (Alike A B g₁ g₂)
            (firstVisit c nested u current former (g₁.addNode current))
            (firstVisit c nested u current former (g₂.addNode current)) (Alike A B) :=
          ⟨fun h hrun => (sim_firstVisit hnested hstill hc u current former).run
            (h.map fun hg => hg.addNode current) hrun⟩
        refine Sim.bind hadd fun h₁ h₂ => Sim.bind sim_state fun t₁ t₂ => ⟨fun h hrun => ?_⟩
        obtain ⟨⟨rfl, rfl⟩, halike⟩ := h
        have hnext :
            orderedSuccessors t₁.arena u current = orderedSuccessors t₂.arena u current := by
          unfold orderedSuccessors
          rw [Arena.line_of_unmarked halike.state.code]
        rw [hnext] at hrun
        exact (ih _ _).run halike hrun

end Walks

/-- Two builds of a unit go the same way. -/
theorem sim_buildWithin {c : BuildContext σ} (hc : c.knowledge.Fixed)
    (hdeadline : c.deadline = .unlimited) (depth : Nat) (id : NodeId) :
    Sim (BuildState.Like A B) (buildWithin c depth id) (buildWithin c depth id) (Alike A B) := by
  induction depth generalizing id with
  | zero => exact ⟨fun _ hrun => by cases hrun⟩
  | succ depth ih =>
    have hstart : ∀ {s₁ s₂ : BuildState}, s₁.Like A B s₂ →
        Alike A B { entrance := id } { entrance := id } s₁ s₂ := fun h => ⟨h, .start id⟩
    unfold buildWithin
    split
    · have hstill := leaves_buildWithin stable_stillTakes c depth
      exact ⟨fun h hrun => (sim_walk ih hstill hc hdeadline _ _ _ _).run (hstart h) hrun⟩
    · exact sim_pure fun _ _ h => hstart h

end Building

/-! ### Fresh names -/

namespace BuildState
variable (index : UnitIndex) (sources : PackageSources)

theorem requiring_initializeScopes (s : BuildState) :
    (s.initializeScopes index sources).requiring = s.requiring :=
  List.foldlRecOn (motive := fun (t : BuildState) => t.requiring = s.requiring) _ _ rfl
    fun _ h _ _ => h

/-- Fresh names do not depend on earlier ones. -/
theorem scope_initializeScopes (s t : BuildState) (file : String) :
    (s.initializeScopes index sources).scope file =
      (t.initializeScopes index sources).scope file := by
  have hfold : ∀ (units : List CodeUnit) (s t : BuildState),
      (∀ file, s.scope file = t.scope file) → ∀ file,
      (units.foldl (fun s u => s.declare (.ofFunction u.name u.file u.id)) s).scope file =
        (units.foldl (fun s u => s.declare (.ofFunction u.name u.file u.id)) t).scope file := by
    intro units
    induction units with
    | nil => exact fun _ _ h => h
    | cons u rest ih =>
      intro s t h
      refine ih _ _ fun other => ?_
      dsimp only [declare]
      rw [scope_setScope, scope_setScope, h, h]
  exact hfold _ _ _ (fun file => (s.scope_forgotten file).trans (t.scope_forgotten file).symm) file

end BuildState

namespace Building
variable {σ : Type} {A : Arena} {c : BuildContext σ} {id : NodeId}

/-- The graph of a unit, built with fresh names. -/
def freshBuild (c : BuildContext σ) (id : NodeId) : Building σ BehaviorGraph := do
  change fun s => s.initializeScopes c.index c.sources
  build c id

/-- The graph that the last of several builds gives, each with fresh names. -/
def freshBuilds (c : BuildContext σ) (id : NodeId) : Nat → Building σ BehaviorGraph
  | 0 => freshBuild c id
  | n + 1 => do
    let _ ← freshBuild c id
    freshBuilds c id n

/-- Whether a state is one that builds of some code can leave. -/
structure Left (A : Arena) (required : List String) (s : BuildState) : Prop where
  code : s.arena.unmarked = A.unmarked
  requiring : s.requiring = required
  assigned : A.AssignedIn s.arena

section Left
variable {required : List String} {s t s' : BuildState} {services services' : σ}
  {g : BehaviorGraph} (hkeyed : A.Keyed)
include hkeyed

theorem Left.like (hs : Left A required s) (ht : Left A required t) :
    (s.initializeScopes c.index c.sources).Like s.arena t.arena
      (t.initializeScopes c.index c.sources) where
  keyed := hkeyed.of_unmarked hs.code
  scopes file := by rw [BuildState.scope_initializeScopes _ _ s t]
  requiring := by
    rw [BuildState.requiring_initializeScopes, BuildState.requiring_initializeScopes, hs.requiring,
      ht.requiring]
  code₁ := by rw [BuildState.arena_initializeScopes]
  code₂ := by rw [BuildState.arena_initializeScopes, ht.code, hs.code]
  kinds := by
    rw [BuildState.arena_initializeScopes, BuildState.arena_initializeScopes]
    exact .start
  callees := by
    rw [BuildState.arena_initializeScopes, BuildState.arena_initializeScopes]
    exact .start
  assigned₁ id hid := by
    rw [BuildState.arena_initializeScopes] at hid
    rw [Arena.name_of_unmarked hs.code]
    exact hs.assigned id hid
  assigned₂ id hid := by
    rw [BuildState.arena_initializeScopes] at hid
    rw [Arena.name_of_unmarked hs.code]
    exact ht.assigned id hid

/-- From all states that builds can leave, builds with fresh names go the same way. -/
theorem Left.freshBuild (hc : c.knowledge.Fixed) (hdeadline : c.deadline = .unlimited)
    (hs : Left A required s) (ht : Left A required t)
    (hrun : (freshBuild c id).run (s, services) = (.ok g, s', services')) (services₂ : σ) :
    ∃ g' t' services₂', (Building.freshBuild c id).run (t, services₂) = (.ok g', t', services₂') ∧
      Alike s.arena t.arena g g' s' t' ∧ Left A required t' := by
  obtain ⟨g', t', services₂', hrun', halike⟩ :=
    (sim_buildWithin hc hdeadline (maxDepth c) id).run (hs.like hkeyed ht) hrun
  refine ⟨g', t', services₂', hrun', halike, ?_⟩
  have hcode := (leaves_buildWithin stable_sameCode c (maxDepth c) id).state
    (t.initializeScopes c.index c.sources) services₂
  rw [hrun'] at hcode
  constructor
  · rw [hcode.code, BuildState.arena_initializeScopes, ht.code]
  · rw [hcode.requiring, BuildState.requiring_initializeScopes, ht.requiring]
  · intro id hid
    rw [← Arena.name_of_unmarked hs.code]
    exact halike.state.assigned₂ id hid

/-- Once the marks are those that a build itself leaves, it always gives the same graph. -/
theorem Left.freshBuilds (hc : c.knowledge.Fixed) (hdeadline : c.deadline = .unlimited)
    (hs : Left A required s) (hsettled : s'.arena.calls = s.arena.calls)
    (hrun : (Building.freshBuild c id).run (s, services) = (.ok g, s', services')) (n : Nat)
    (ht : Left A required t) (hcalls : t.arena.calls = s.arena.calls) (services₂ : σ) :
    ∃ after, (freshBuilds c id n).run (t, services₂) = (.ok g, after) := by
  induction n generalizing t services₂ with
  | zero =>
    obtain ⟨g', t', services₂', hrun', halike, -⟩ :=
      hs.freshBuild hkeyed hc hdeadline ht hrun services₂
    rw [halike.graph.same hcalls.symm]
    exact ⟨_, hrun'⟩
  | succ n ih =>
    obtain ⟨g', t', services₂', hrun', halike, ht'⟩ :=
      hs.freshBuild hkeyed hc hdeadline ht hrun services₂
    have hcalls' : t'.arena.calls = s.arena.calls :=
      (halike.state.calls hcalls.symm).symm.trans hsettled
    obtain ⟨after, hrest⟩ := ih ht' hcalls' services₂'
    exact ⟨after, Effect.run_bind_eq_ok.mpr ⟨g', _, hrun', hrest⟩⟩

end Left

theorem left_of_loaded {code : CodeGraph} {units : List CodeUnit} {s : BuildState}
    (h : Loaded code units s.arena) : Left s.arena s.requiring s := by
  refine ⟨rfl, rfl, fun id hid => ?_⟩
  obtain ⟨n, hn, hkind⟩ := Option.bind_eq_some_iff.mp hid
  rw [← h.unmarked_eq hn] at hkind
  cases hkind

/-- A build is repeated, with fresh names, from the marks that it left. Nodes, returned values and
all edges stay, but for edges into nodes that take returned values: such edges follow the marks that
a first build finds unset. From the second build on the graph does not change any more. -/
theorem rebuild_settles {s s' : BuildState} {services services' : σ} {g : BehaviorGraph}
    (hc : c.knowledge.Fixed) (hdeadline : c.deadline = .unlimited)
    (hloaded : Loaded c.code c.index.units s.arena)
    (hrun : (freshBuild c id).run (s, services) = (.ok g, s', services')) :
    ∃ g' : BehaviorGraph, g'.entrance = g.entrance ∧ g'.nodes = g.nodes ∧
      g'.returns = g.returns ∧
      (∀ a b, s'.arena.takesReturns b = false → g'.tags? a b = g.tags? a b) ∧
      ∀ n, ∃ after, (freshBuilds c id n).run (s', services') = (.ok g', after) := by
  have hkeyed : s.arena.Keyed := fun _ _ => hloaded.id_eq
  have hs := left_of_loaded hloaded
  obtain ⟨_, _, _, hself, -, hs'⟩ := hs.freshBuild hkeyed hc hdeadline hs hrun services
  cases hrun.symm.trans hself
  obtain ⟨g', s'', services'', hrun', halike, -⟩ :=
    hs.freshBuild hkeyed hc hdeadline hs' hrun services'
  have hsettled : s''.arena.calls = s'.arena.calls :=
    (Arena.calls_eq halike.state.code halike.state.kinds.again halike.state.callees.again).symm
  refine ⟨g', halike.graph.entrance.symm, halike.graph.nodes.symm, halike.graph.returns.symm, ?_,
    ?_⟩
  · intro a b hb
    have hb' : s''.arena.takesReturns b = false := by
      rwa [Arena.takesReturns_of_calls hsettled]
    exact (halike.graph.edges a b ⟨hb, hb'⟩).symm
  · intro n
    exact hs'.freshBuilds hkeyed hc hdeadline hsettled hrun' n hs' rfl services'

/-! ### A call that is cut short -/

theorem fixed_silent {σ : Type} : (KnowledgeStore.silent : KnowledgeStore σ).Fixed where
  classify _ := ⟨_, Effect.gives_pure _⟩
  sensitiveCall _ _ _ _ := ⟨_, Effect.gives_pure _⟩
  registerModule _ _ := Effect.gives_pure _

/-- `ping` returns what `pong` gives, and `pong` assigns what `ping` gives: `ping(); pong()`. The
call of `ping` that is reached from `ping` itself is cut short, and what it returns is known only
after the call of `pong`. -/
def pingPong : Sample where
  code := .sketch
    [(1, "METHOD", [("NAME", ":program"), ("FILENAME", "index.js")]),
      (2, "CALL", [("NAME", "ping"), ("CODE", "ping()")]),
      (3, "CALL", [("NAME", "pong"), ("CODE", "pong()")]),
      (10, "METHOD", [("NAME", "ping"), ("FILENAME", "index.js")]),
      (11, "CALL", [("NAME", "pong"), ("CODE", "pong()")]),
      (12, "RETURN", []),
      (20, "METHOD", [("NAME", "pong"), ("FILENAME", "index.js")]),
      (21, "CALL", [("NAME", "ping"), ("CODE", "ping()"), ("ORDER", "2")]),
      (22, "CALL", [("NAME", "<operator>.assignment")]),
      (23, "IDENTIFIER", [("CODE", "x"), ("ORDER", "1")])]
    [(22, 23), (22, 21)]
  exports :=
    ["digraph \x7b 1 -> 2 -> 3 [label=CFG] \x7d", "digraph \x7b 10 -> 11 -> 12 [label=CFG] \x7d",
      "digraph \x7b 20 -> 21 -> 22 [label=CFG] 21 -> 22 [label=DDG] \x7d"]

def pingPongGraph : BehaviorGraph where
  entrance := 1
  nodes := [1, 2, 10, 11, 20, 21, 22, 12, 3]
  edges := ⟨[((1, 2), ["CFG"]), ((2, 10), ["DDG"]), ((10, 11), ["CFG"]), ((11, 20), ["DDG"]),
    ((11, 12), ["CFG"]), ((20, 21), ["CFG"]), ((21, 22), ["CFG"]), ((2, 3), ["CFG"]),
    ((3, 20), ["DDG"])]⟩

/-- The graph with what `ping` returns. -/
def pingPongAgain : BehaviorGraph where
  entrance := 1
  nodes := [1, 2, 10, 11, 20, 21, 22, 12, 3]
  edges := ⟨[((1, 2), ["CFG"]), ((2, 10), ["DDG"]), ((10, 11), ["CFG"]), ((11, 20), ["DDG"]),
    ((11, 12), ["CFG"]), ((20, 21), ["CFG"]), ((21, 22), ["CFG", "DDG"]), ((12, 22), ["DDG"]),
    ((2, 3), ["CFG"]), ((3, 20), ["DDG"])]⟩

/-- The first two builds of the sample, the second from the marks of the first. -/
theorem run_pingPong :
    ∃ s' s'', (freshBuild pingPong.context 1).run ({ arena := pingPong.read.2 }, ()) =
        (.ok pingPongGraph, s', ()) ∧
      (freshBuild pingPong.context 1).run (s', ()) = (.ok pingPongAgain, s'', ()) := by
  have hfirst : pingPong.graph? 1 = some pingPongGraph := by decide +kernel
  have htwice : ((freshBuilds pingPong.context 1 1).run
      ({ arena := pingPong.read.2 }, ())).1.toOption = some pingPongAgain := by
    decide +kernel
  obtain ⟨s', hrun⟩ := Sample.run hfirst
  obtain ⟨⟨s'', _⟩, hboth⟩ := Effect.run_of_toOption htwice
  obtain ⟨g, s₁, hrun₁, hrun₂⟩ := Effect.run_bind_eq_ok.mp hboth
  have hsame : (Except.ok pingPongGraph, s', ()) = (Except.ok g, s₁) := hrun.symm.trans hrun₁
  cases hsame
  exact ⟨s', s'', hrun, hrun₂⟩

theorem hasUnit_pingPong : pingPong.hasUnit 1 = true := by decide +kernel

/-- What the second build adds, all later ones have too; the edge into `pong` was there before. -/
theorem rebuild_settles_pingPong :
    pingPong.context.knowledge.Fixed ∧ pingPong.context.deadline = .unlimited ∧
    Loaded pingPong.code pingPong.context.index.units pingPong.read.2 ∧
    ∃ s' g', (freshBuild pingPong.context 1).run ({ arena := pingPong.read.2 }, ()) =
        (.ok pingPongGraph, s', ()) ∧
      g'.nodes = pingPongGraph.nodes ∧ g'.returns = [] ∧
      s'.arena.takesReturns 20 = false ∧ g'.tags? 11 20 = some ["DDG"] ∧
      ∀ n, ∃ after, (freshBuilds pingPong.context 1 n).run (s', ()) = (.ok g', after) := by
  obtain ⟨s', s'', hrun, -⟩ := run_pingPong
  have hloaded := Sample.loaded hasUnit_pingPong
  have hentry : ((freshBuild pingPong.context 1).run
      ({ arena := pingPong.read.2 }, ())).2.1.arena.takesReturns 20 = false := by
    decide +kernel
  rw [hrun] at hentry
  obtain ⟨g', -, hnodes, hreturns, hedges, hsettled⟩ :=
    rebuild_settles fixed_silent rfl hloaded hrun
  exact ⟨fixed_silent, rfl, hloaded, s', g', hrun, hnodes, hreturns, hentry, hedges 11 20 hentry,
    hsettled⟩

/-- The second build is not the first one again. -/
theorem rebuild_differs_pingPong :
    pingPong.context.knowledge.Fixed ∧ pingPong.context.deadline = .unlimited ∧
    Loaded pingPong.code pingPong.context.index.units pingPong.read.2 ∧
    ∃ s' s'', (freshBuild pingPong.context 1).run ({ arena := pingPong.read.2 }, ()) =
        (.ok pingPongGraph, s', ()) ∧
      (freshBuild pingPong.context 1).run (s', ()) = (.ok pingPongAgain, s'', ()) ∧
      pingPongGraph.edgeKind? 21 22 = some .control ∧
      pingPongAgain.edgeKind? 21 22 = some .data := by
  obtain ⟨s', s'', hfirst, hsecond⟩ := run_pingPong
  exact ⟨fixed_silent, rfl, Sample.loaded hasUnit_pingPong, s', s'', hfirst, hsecond,
    by decide, by decide⟩

end Building

end PackageVet

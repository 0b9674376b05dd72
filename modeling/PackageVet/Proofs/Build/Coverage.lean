import PackageVet.Proofs.Build.Sample

/-! A build loses no code.

When a walk takes an edge of its unit, the source passes on to the target in the graph: over the
edge itself or, where a unit was put in at the source, from all that the unit returns
(`Goes.carries`). Control always gets through. Data does too, unless it comes first to an assignment
of what a function of the package returned (`Weakens`): such an assignment takes its data from the
call.

Every edge from a node that can be reached is taken, so a build has all of the unit's code that can
be reached (`build_covers`), and its data but for those assignments (`build_keeps_data`). -/
namespace PackageVet.Building
open BehaviorGraph

variable {σ : Type} {c : BuildContext σ} {nested : Nested σ} {u : CodeUnit}
  {g g' : BehaviorGraph} {kind : EdgeKind} {s t : NodeId} {source node : ProgramNode}
  {st : BuildState} {services : σ} {after : BuildState × σ}

theorem incomingTags_some {tags : List String} (h : u.tags? s t = some tags) :
    u.incomingTags (some s) t = tags := by
  simp [CodeUnit.incomingTags, h]

theorem leads_linkIncoming (h : kind.Admits (EdgeKind.ofTags (u.incomingTags (some s) t))) :
    (g.linkIncoming u (some s) t).Leads kind s t :=
  leads_addEdge_self h

/-! ### A node that is visited again -/

theorem carries_revisit {target : ProgramNode} (harena : st.arena.get? source.id = some source)
    (htarget : st.arena.get? t = some target)
    (h : kind.Admits (EdgeKind.ofTags (u.incomingTags (some source.id) t))) :
    (revisit st.arena u source.id t g).Carries kind source t := by
  unfold revisit
  rw [harena, htarget]
  dsimp only
  split
  · exact carries_linkResolved h
  · split
    · split
      · exact carries_linkResolved h
      · split
        · exact carries_addEdge h
        · exact carries_addEdge h
    · exact carries_addEdge h

/-! ### Assignments -/

/-- Whether a node assigns what a call gives. -/
def AssignsCall (c : BuildContext σ) (arena : Arena) (t : NodeId) (call : ProgramNode) : Prop :=
  ∃ left right rest, c.code.children t = left :: right :: rest ∧ right.kind = "CALL" ∧
    arena.get? right.id = some call

/-- Whether a call gives an assignment its data: the call is of a function of the package, and
nothing was put in at it, or what was put in returns something, which is linked. -/
def GivesData (call : ProgramNode) (t : NodeId) (g g' : BehaviorGraph) : Prop :=
  call.callKind = some .functionCall ∧ call.callee = none ∨
    (call.callKind = some .functionCall ∨ call.callKind = some .localModuleCall) ∧
    ∃ link, call.callee = some link ∧ link.returns ≠ [] ∧ g' = g.linkReturns link.returns t ["DDG"]

theorem leads_assignReturned {right : CodeNode} {i i' : Identifier}
    (h : (assignReturned node (some s) right g i).run (st, services) = (.ok (g', i'), after)) :
    g'.Leads .data s node.id ∨
      ∃ call, st.arena.get? right.id = some call ∧ GivesData call node.id g g' := by
  have hddg : EdgeKind.data.Admits (EdgeKind.ofTags ["DDG"]) := .inr (by decide +kernel)
  have hlink (call : ProgramNode) (fallback : String) :
      linkCallReturns g call node.id (some s) fallback = g.addEdge s node.id [fallback] ∨
      ∃ link, call.callee = some link ∧ link.returns ≠ [] ∧
        linkCallReturns g call node.id (some s) fallback =
          g.linkReturns link.returns node.id ["DDG"] := by
    unfold linkCallReturns returnsOf
    cases hcallee : call.callee with
    | none => exact .inl rfl
    | some link =>
      cases hreturns : link.returns with
      | nil => exact .inl (by simp [hreturns, linkFrom])
      | cons r rest => exact .inr ⟨link, rfl, by simp [hreturns], by simp [hreturns]⟩
  unfold assignReturned at h
  obtain ⟨call?, s₁, hnode, h⟩ := Effect.run_bind_eq_ok.mp h
  cases hnode
  cases hcall : st.arena.get? right.id with
  | none =>
    rw [hcall] at h
    cases (Effect.run_pure_eq_ok.mp h).1
    exact .inl (leads_addEdge_self hddg)
  | some call =>
    rw [hcall] at h
    dsimp only at h
    split at h
    · next hkind =>
      cases (Effect.run_pure_eq_ok.mp h).1
      rcases hlink call "DDG" with heq | ⟨link, hcallee, hne, heq⟩
      · exact .inl (heq ▸ leads_addEdge_self hddg)
      · exact .inr ⟨call, rfl, .inr ⟨.inr hkind, link, hcallee, hne, heq⟩⟩
    · next hkind =>
      cases (Effect.run_pure_eq_ok.mp h).1
      rcases hlink call (if call.callee.isSome then "DDG" else "CFG")
        with heq | ⟨link, hcallee, hne, heq⟩
      · cases hcallee : call.callee with
        | none => exact .inr ⟨call, rfl, .inl ⟨hkind, hcallee⟩⟩
        | some link =>
          rw [hcallee] at heq
          exact .inl (heq ▸ leads_addEdge_self hddg)
      · exact .inr ⟨call, rfl, .inr ⟨.inl hkind, link, hcallee, hne, heq⟩⟩
    · cases (Effect.run_pure_eq_ok.mp h).1
      exact .inl (leads_addEdge_self hddg)
    · cases (Effect.run_pure_eq_ok.mp h).1
      exact .inl (leads_addEdge_self hddg)

theorem carries_assignSum (harena : st.arena.get? source.id = some source)
    (hdata : EdgeKind.ofTags (u.incomingTags (some source.id) node.id) = .data)
    (h : (assignSum u node (some source.id) g).run (st, services) = (.ok g', after)) :
    g'.Carries .data source node.id := by
  unfold assignSum at h
  dsimp only at h
  rw [if_pos hdata] at h
  obtain ⟨source?, s₁, hnode, h⟩ := Effect.run_bind_eq_ok.mp h
  cases hnode
  rw [harena] at h
  cases (Effect.run_pure_eq_ok.mp h).1
  exact carries_linkResolved (.inr hdata)

theorem carries_assignCall {right : CodeNode} {i i' : Identifier}
    (harena : st.arena.get? source.id = some source)
    (hdata : EdgeKind.ofTags (u.incomingTags (some source.id) node.id) = .data)
    (h : (assignCall c u node (some source.id) right g i).run (st, services) =
      (.ok (g', i'), after)) :
    g'.Carries .data source node.id ∨
      ∃ call, st.arena.get? right.id = some call ∧ GivesData call node.id g g' := by
  have hincoming (g : BehaviorGraph) :
      (g.linkIncoming u (some source.id) node.id).Carries .data source node.id :=
    .inl (leads_linkIncoming (.inr hdata))
  unfold assignCall at h
  split at h
  · obtain ⟨_, _, -, h⟩ := Effect.run_bind_eq_ok.mp h
    cases (Effect.run_pure_eq_ok.mp h).1
    exact .inl (hincoming _)
  · obtain ⟨g₁, s₁, hsum, h⟩ := Effect.run_bind_eq_ok.mp h
    cases (Effect.run_pure_eq_ok.mp h).1
    exact .inl (carries_assignSum harena hdata hsum)
  · obtain ⟨_, _, -, h⟩ := Effect.run_bind_eq_ok.mp h
    cases (Effect.run_pure_eq_ok.mp h).1
    exact .inl (hincoming _)
  · obtain ⟨_, _, -, h⟩ := Effect.run_bind_eq_ok.mp h
    cases (Effect.run_pure_eq_ok.mp h).1
    exact .inl (hincoming _)
  · exact (leads_assignReturned h).imp_left fun hl => .inl hl

theorem carries_assignValue {right : CodeNode} {i i' : Identifier}
    (harena : st.arena.get? source.id = some source)
    (hdata : EdgeKind.ofTags (u.incomingTags (some source.id) node.id) = .data)
    (h : (assignValue c u node (some source.id) right g i).run (st, services) =
      (.ok (g', i'), after)) :
    g'.Carries .data source node.id ∨ right.kind = "CALL" ∧
      ∃ call, st.arena.get? right.id = some call ∧ GivesData call node.id g g' := by
  have hincoming : (g.linkIncoming u (some source.id) node.id).Carries .data source node.id :=
    .inl (leads_linkIncoming (.inr hdata))
  unfold assignValue at h
  split at h
  · next hcall => exact (carries_assignCall harena hdata h).imp_right fun hr => ⟨hcall, hr⟩
  · have hmore := (keeps_assignName stable_sameCode.toQuiet u node right _ i).value _ _ _
      (congrArg Prod.fst h)
    exact .inl (hmore.part.carries hincoming)
  · have hmore := (keeps_assignConstructed stable_sameCode.toQuiet c u node right _ i).value _ _ _
      (congrArg Prod.fst h)
    exact .inl (hmore.part.carries hincoming)
  · cases (Effect.run_pure_eq_ok.mp h).1
    exact .inl hincoming

/-- What an assignment does with data that comes to it. -/
theorem carries_assignment (harena : st.arena.get? source.id = some source)
    (hne : source.id ≠ node.id)
    (hdata : EdgeKind.ofTags (u.incomingTags (some source.id) node.id) = .data)
    (h : (assignment c u node (some source.id) g).run (st, services) = (.ok g', after)) :
    g'.Carries .data source node.id ∨
      ∃ call, AssignsCall c st.arena node.id call ∧ GivesData call node.id g g' := by
  have hincoming : (g.linkIncoming u (some source.id) node.id).Carries .data source node.id :=
    .inl (leads_linkIncoming (.inr hdata))
  unfold assignment at h
  split at h
  · next left right rest hchildren =>
    obtain ⟨_, s₁, hset, h⟩ := Effect.run_bind_eq_ok.mp h
    cases hset
    split at h
    · cases (Effect.run_pure_eq_ok.mp h).1
      exact .inl hincoming
    · obtain ⟨⟨g₁, i₁⟩, s₂, hvalue, h⟩ := Effect.run_bind_eq_ok.mp h
      obtain ⟨_, s₃, -, h⟩ := Effect.run_bind_eq_ok.mp h
      cases (Effect.run_pure_eq_ok.mp h).1
      have harena' (id : NodeId) (hid : id ≠ node.id) :
          (st.updateNode node.id fun n => { n with callKind := some .assignment }).arena.get? id =
            st.arena.get? id := (Table.get?_modify ..).trans (if_neg hid)
      rcases carries_assignValue ((harena' _ hne).trans harena) hdata hvalue
        with hc | ⟨hkind, call, hcall, hgives⟩
      · exact .inl hc
      · refine .inr ⟨call, ⟨left, right, rest, hchildren, hkind, ?_⟩, hgives⟩
        by_cases hself : right.id = node.id
        · -- the assignment itself is not a call of a function
          rw [hself, BuildState.updateNode, Table.get?_modify, if_pos rfl] at hcall
          obtain ⟨n, -, rfl⟩ := Option.map_eq_some_iff.mp hcall
          rcases hgives with ⟨hk, -⟩ | ⟨hk | hk, -⟩ <;> cases hk
        · rwa [harena' _ hself] at hcall
  · cases (Effect.run_pure_eq_ok.mp h).1
    exact .inl hincoming

/-! ### A node that is visited first -/

/-- Whether data may come to a node as control alone, the graph growing from one to another: the
node assigns what a call of a function of the package gave. Either nothing was put in at the call,
or what was put in returns something, all of which leads to the node, and the edge was there
already. -/
structure Weakens (c : BuildContext σ) (arena : Arena) (s t : NodeId) (g g' : BehaviorGraph) :
    Prop where
  linked : g'.hasEdge s t = true
  cause : ∃ call, AssignsCall c arena t call ∧
    (call.callKind = some .functionCall ∧ call.callee = none ∨
      (call.callKind = some .functionCall ∨ call.callKind = some .localModuleCall) ∧
      g.hasEdge s t = true ∧ ∃ link, call.callee = some link ∧ link.returns ≠ [] ∧
        ∀ r ∈ link.returns, g'.edgeKind? r t = some .data)

theorem Weakens.grow {arena : Arena} {h' : BehaviorGraph} (hw : Weakens c arena s t g g')
    (hpart : g'.PartOf h') : Weakens c arena s t g h' := by
  obtain ⟨hlinked, call, hcall, hcause⟩ := hw
  refine ⟨hpart.hasEdge hlinked, call, hcall, ?_⟩
  refine hcause.imp_right fun ⟨hkind, hold, link, hcallee, hne, hall⟩ => ?_
  exact ⟨hkind, hold, link, hcallee, hne, fun r hr =>
    leads_data.mp (hpart.leads (leads_data.mpr (hall r hr)))⟩

/-- Data that comes to an assignment over an edge. -/
theorem carries_ensureEdge {tags : List String}
    (h : g'.Carries .data source t ∨
      ∃ call, AssignsCall c st.arena t call ∧ GivesData call t g g')
    (hdata : EdgeKind.ofTags tags = .data) :
    (g'.ensureEdge source.id t tags).Carries .data source t ∨
      Weakens c st.arena source.id t g (g'.ensureEdge source.id t tags) := by
  have hpart := (g'.moreInto_ensureEdge source.id t tags).part
  have hlinked := hasEdge_iff_leads.mpr (hasEdge_ensureEdge g' source.id t tags)
  rcases h with hc | ⟨call, hcall, hnone | ⟨hkind, link, hcallee, hne, rfl⟩⟩
  · exact .inl (hpart.carries hc)
  · exact .inr ⟨hlinked, call, hcall, .inl hnone⟩
  · have hddg : EdgeKind.data.Admits (EdgeKind.ofTags ["DDG"]) := .inr (by decide +kernel)
    by_cases hedge : (g.linkReturns link.returns t ["DDG"]).hasEdge source.id t = true
    · by_cases hsource : source.id ∈ link.returns
      · exact .inl (.inl (hpart.leads (leads_linkReturns hsource hddg)))
      · have hold := leads_of_linkReturns hsource (hasEdge_iff_leads.mp hedge)
        refine .inr ⟨hlinked, call, hcall, .inr ⟨hkind, hasEdge_iff_leads.mpr hold, link, hcallee,
          hne, fun r hr => ?_⟩⟩
        exact leads_data.mp (hpart.leads (leads_linkReturns hr hddg))
    · left
      rw [ensureEdge, if_neg hedge]
      exact carries_addEdge (.inr hdata)

theorem carries_operation {i? : Option Inlining} (harena : st.arena.get? source.id = some source)
    (hne : source.id ≠ node.id)
    (hadmits : kind.Admits (EdgeKind.ofTags (u.incomingTags (some source.id) node.id)))
    (h : (operation c u node (some source.id) g).run (st, services) = (.ok (g', i?), after)) :
    g'.Carries kind source node.id ∨
      kind = .data ∧ Weakens c st.arena source.id node.id g g' := by
  have hincoming (g : BehaviorGraph) :
      (g.linkIncoming u (some source.id) node.id).Carries kind source node.id :=
    .inl (leads_linkIncoming hadmits)
  unfold operation at h
  dsimp only at h
  split at h
  · obtain ⟨g₁, s₁, hassign, h⟩ := Effect.run_bind_eq_ok.mp h
    cases (Effect.run_pure_eq_ok.mp h).1
    cases kind with
    | control => exact .inl (.inl (hasEdge_ensureEdge ..))
    | data =>
      have hdata := EdgeKind.data_admits.mp hadmits
      have hcarries := carries_assignment harena hne hdata hassign
      exact (carries_ensureEdge hcarries hdata).imp_right fun hw => ⟨rfl, hw⟩
  · obtain ⟨g₁, s₁, -, h⟩ := Effect.run_bind_eq_ok.mp h
    cases (Effect.run_pure_eq_ok.mp h).1
    exact .inl (hincoming _)
  · obtain ⟨g₁, s₁, hformat, h⟩ := Effect.run_bind_eq_ok.mp h
    cases (Effect.run_pure_eq_ok.mp h).1
    obtain ⟨source?, s₂, hnode, hformat⟩ := Effect.run_bind_eq_ok.mp hformat
    cases hnode
    rw [harena] at hformat
    cases (Effect.run_pure_eq_ok.mp hformat).1
    exact .inl (carries_substituteReturns hadmits)
  · split at h
    · obtain ⟨_, s₁, -, h⟩ := Effect.run_bind_eq_ok.mp h
      cases (Effect.run_pure_eq_ok.mp h).1
      exact .inl (hincoming _)
    · cases (Effect.run_pure_eq_ok.mp h).1
      exact .inl (hincoming _)
  · obtain ⟨i, s₁, -, h⟩ := Effect.run_bind_eq_ok.mp h
    cases (Effect.run_pure_eq_ok.mp h).1
    exact .inl (hincoming _)
  · split at h
    · have hmore := (keeps_invoke stable_sameCode.toShallow c u node _).value _ _ _
        (congrArg Prod.fst h)
      refine .inl (.inl (hmore.part.leads (leads_addEdge_self ?_)))
      split
      · exact .inr (by decide +kernel)
      · exact hadmits
    · cases (Effect.run_pure_eq_ok.mp h).1
      exact .inl (hincoming _)

theorem carries_firstVisit (hnested : ∀ id, Leaves BuildState.SameCode (nested id))
    (harena : st.arena.get? source.id = some source) (htarget : st.arena.get? t = some node)
    (hid : node.id = t) (hentrance : node.entrance = false) (hne : source.id ≠ t)
    (hadmits : kind.Admits (EdgeKind.ofTags (u.incomingTags (some source.id) t)))
    (h : (firstVisit c nested u t (some source.id) g).run (st, services) = (.ok g', after)) :
    g'.Carries kind source t ∨ kind = .data ∧ Weakens c st.arena source.id t g g' := by
  have hincoming (g : BehaviorGraph) :
      (g.linkIncoming u (some source.id) t).Carries kind source t :=
    .inl (leads_linkIncoming hadmits)
  unfold firstVisit at h
  obtain ⟨node?, s₁, hnode, h⟩ := Effect.run_bind_eq_ok.mp h
  cases hnode
  rw [htarget] at h
  dsimp only at h
  rw [hentrance] at h
  simp only [Bool.false_eq_true, if_false] at h
  split at h
  · obtain ⟨_, s₁, -, h⟩ := Effect.run_bind_eq_ok.mp h
    cases (Effect.run_pure_eq_ok.mp h).1
    exact .inl (hincoming _)
  · split at h
    · obtain ⟨_, s₁, -, h⟩ := Effect.run_bind_eq_ok.mp h
      cases (Effect.run_pure_eq_ok.mp h).1
      exact .inl (hincoming _)
    · cases (Effect.run_pure_eq_ok.mp h).1
      exact .inl (hincoming _)
  · obtain ⟨⟨g₁, i?⟩, s₁, hop, h⟩ := Effect.run_bind_eq_ok.mp h
    obtain ⟨g₂, s₂, hput, h⟩ := Effect.run_bind_eq_ok.mp h
    subst hid
    have hpart : g₁.PartOf g' :=
      ((keeps_putIn stable_sameCode hnested node.id g₁ i?).value _ _ _
        (congrArg Prod.fst hput)).trans
          ((keeps_putIn stable_sameCode hnested node.id g₂ _).value _ _ _ (congrArg Prod.fst h))
    refine (carries_operation harena hne hadmits hop).imp hpart.carries ?_
    exact fun ⟨hkind, hw⟩ => ⟨hkind, hw.grow hpart⟩
  · cases (Effect.run_pure_eq_ok.mp h).1
    exact .inl (hincoming _)

/-! ### Whole builds -/

section Builds
variable {code : CodeGraph} {arena : Arena} {g : BehaviorGraph} {s s' : BuildState}
  {services services' : σ} {id : NodeId}

/-- When a walk takes an edge, the source passes on to the target. -/
theorem Goes.carries {m m' : Moment σ} {a b : NodeId}
    (hnested : ∀ id, Leaves BuildState.SameCode (nested id))
    (hgoes : Goes c nested u m m') (htop : m.stack.head? = some (b, some a))
    (ha : a ∈ m.visited) (hsource : m.state.arena.get? a = some source) (hid : source.id = a)
    (htarget : m.state.arena.get? b = some node) (hid' : node.id = b)
    (hentrance : b ∉ m.visited → node.entrance = false)
    (hadmits : kind.Admits (EdgeKind.ofTags (u.incomingTags (some a) b))) :
    m'.graph.Carries kind source b ∨
      kind = .data ∧ b ∉ m.visited ∧ Weakens c m.state.arena a b m.graph m'.graph := by
  subst hid
  cases hgoes with
  | @first visited current former stack g g' st st' _ _ _ hn _ hrun =>
    cases htop
    have hne : source.id ≠ b := fun he => hn (he ▸ ha)
    have hcarries := carries_firstVisit hnested hsource htarget hid' (hentrance hn) hne hadmits hrun
    refine hcarries.imp_right fun ⟨hkind, hlinked, call, hcall, hcause⟩ =>
      ⟨hkind, hn, hlinked, call, hcall, ?_⟩
    simpa only [hasEdge, tags?_addNode] using hcause
  | again hv =>
    cases htop
    exact .inl (carries_revisit hsource htarget hadmits)
  | skip => cases htop

/-- The code is what it was when the build began. -/
theorem Passes.over {m : Moment σ} (hover : s.Over arena) (hm : Passes c u s services m) :
    m.state.Over arena := by
  have hcode := (Going.sameCode (leaves_inner c) hm).code
  exact fun id hid => (congrFun hcode id).trans (hover id hid)

/-- What has become, at the end of a build, of an edge that the build took. -/
theorem carries_of_takes {last : Moment σ} {a b : NodeId}
    (hloaded : Loaded code c.index.units arena) (hover : s.Over arena)
    (hu : c.index.get? u.id = some u)
    (hentrance : ∀ n ∈ u.nodes, n ≠ u.id → arena.isEntrance n = false)
    (hb : b ∈ u.successors a) (hadmits : kind.Admits (EdgeKind.ofTags (u.incomingTags (some a) b)))
    (h : Takes c (inner c) u (.start u s services) a b last) :
    ∃ m source, Passes c u s services m ∧ m.stack.head? = some (b, some a) ∧
      m.state.arena.get? a = some source ∧ source.id = a ∧
      (last.graph.Carries kind source b ∨
        kind = .data ∧ b ∉ m.visited ∧ Weakens c m.state.arena a b m.graph last.graph) := by
  obtain ⟨m, m', hm, htop, hgoes, hlast⟩ := h
  have htrack := onTrack_of_going (leaves_inner c) hm
  have hin : (b, some a) ∈ m.stack := List.mem_of_head? htop
  have hentered : u.id ∈ m.visited := htrack.entered.resolve_right fun hstack => by
    rw [hstack] at htop
    cases htop
  have hmember := UnitIndex.mem_units_of_get? hu
  have hends := hloaded.ends hmember (Edges.mem_successors.mp hb)
  have hover' := Passes.over hover hm
  obtain ⟨source, hsource, hid, -⟩ := hloaded.known hover' hmember hends.1
  obtain ⟨node, htarget, hid', hflag⟩ := hloaded.known hover' hmember hends.2
  have hentrance' (hb : b ∉ m.visited) : node.entrance = false :=
    hflag.trans (hentrance b hends.2 fun he => hb (he ▸ hentered))
  refine ⟨m, source, hm, htop, hsource, hid, ?_⟩
  have hpart := Going.partOf (leaves_inner c) hlast
  refine (hgoes.carries (leaves_inner c) htop (htrack.edges a b hin).1 hsource hid htarget hid'
    hentrance' hadmits).imp hpart.carries ?_
  exact fun ⟨hkind, hv, hw⟩ => ⟨hkind, hv, hw.grow hpart⟩

variable (hloaded : Loaded code c.index.units arena) (hover : s.Over arena)
  (hu : c.index.get? id = some u)
  (hentrance : ∀ n ∈ u.nodes, n ≠ id → arena.isEntrance n = false)
  (h : (build c id).run (s, services) = (.ok g, s', services'))
include hloaded hover hu hentrance h

/-- A build has every node that can be reached, and every edge from such a node, but where a unit
was put in at its source: then all that the unit returns has the edge. -/
theorem build_covers :
    (∀ n, u.Reaches n → n ∈ g.nodes) ∧
    ∀ a b, u.Reaches a → b ∈ u.successors a →
      g.hasEdge a b = true ∨
      ∃ m link, Passes c u s services m ∧ m.stack.head? = some (b, some a) ∧
        m.callee? a = some link ∧ link.returns ≠ [] ∧ ∀ r ∈ link.returns, g.hasEdge r b = true := by
  cases UnitIndex.id_of_get? hu
  obtain ⟨visited, hpasses⟩ := passes_of_build hu h
  constructor
  · intro n hn
    have htrack := onTrack_of_going (leaves_inner c) hpasses
    exact htrack.nodes (visits_of_end (leaves_inner c) hpasses rfl hn)
  · intro a b ha hb
    have htakes := takes_of_end (leaves_inner c) hpasses rfl ha hb
    obtain ⟨m, source, hm, htop, hsource, rfl, hcarries⟩ :=
      carries_of_takes hloaded hover hu hentrance hb (EdgeKind.control_admits _) htakes
    rcases hcarries with (hleads | ⟨link, hcallee, hne, hall⟩) | ⟨⟨⟩, -⟩
    · exact .inl (hasEdge_iff_leads.mpr hleads)
    · refine .inr ⟨m, link, hm, htop, ?_, hne, fun r hr => hasEdge_iff_leads.mpr (hall r hr)⟩
      rw [Moment.callee?, hsource]
      exact hcallee

/-- Data stays data in a build, but where it comes first to an assignment of what a function of the
package returned. -/
theorem build_keeps_data (a b : NodeId) (ha : u.Reaches a) (hb : u.edgeKind? a b = some .data) :
    g.edgeKind? a b = some .data ∨
      ∃ m, Passes c u s services m ∧ m.stack.head? = some (b, some a) ∧
        ((∃ link, m.callee? a = some link ∧ link.returns ≠ [] ∧
            ∀ r ∈ link.returns, g.edgeKind? r b = some .data) ∨
          b ∉ m.visited ∧ Weakens c m.state.arena a b m.graph g) := by
  cases UnitIndex.id_of_get? hu
  obtain ⟨visited, hpasses⟩ := passes_of_build hu h
  obtain ⟨tags, htags, hdata⟩ := Option.map_eq_some_iff.mp hb
  have hsucc : b ∈ u.successors a := by
    refine Edges.mem_successors.mpr ((Table.contains_iff u.edges (a, b)).mp ?_)
    exact Option.isSome_iff_exists.mpr ⟨tags, htags⟩
  have hadmits : EdgeKind.data.Admits (EdgeKind.ofTags (u.incomingTags (some a) b)) := by
    rw [incomingTags_some htags]
    exact .inr hdata
  have htakes := takes_of_end (leaves_inner c) hpasses rfl ha hsucc
  obtain ⟨m, source, hm, htop, hsource, rfl, hcarries⟩ :=
    carries_of_takes hloaded hover hu hentrance hsucc hadmits htakes
  rcases hcarries with (hleads | ⟨link, hcallee, hne, hall⟩) | ⟨-, hv, hw⟩
  · exact .inl (leads_data.mp hleads)
  · refine .inr ⟨m, hm, htop, .inl ⟨link, ?_, hne, fun r hr => leads_data.mp (hall r hr)⟩⟩
    rw [Moment.callee?, hsource]
    exact hcallee
  · exact .inr ⟨m, hm, htop, .inr ⟨hv, hw⟩⟩

end Builds

/-! ### A template of what a call returns -/

/-- A template of `load()`, where `load` returns something. -/
def template : Sample where
  code := .sketch
    [(1, "METHOD", [("NAME", ":program"), ("FILENAME", "index.js")]),
      (2, "CALL", [("NAME", "load"), ("CODE", "load()")]),
      (3, "CALL", [("NAME", "<operator>.formatString")]),
      (10, "METHOD", [("NAME", "load"), ("FILENAME", "index.js")]), (11, "RETURN", [])] []
  exports :=
    ["digraph \x7b 1 -> 2 -> 3 [label=CFG] 2 -> 3 [label=\"DDG: load()\"] \x7d",
      "digraph \x7b 10 -> 11 [label=CFG] \x7d"]

/-- The template takes its data from what `load` returns, not from the call. -/
def templateGraph : BehaviorGraph where
  entrance := 1
  nodes := [1, 2, 10, 11, 3]
  edges := ⟨[((1, 2), ["CFG"]), ((2, 10), ["DDG"]), ((10, 11), ["CFG"]),
    ((11, 3), ["CFG", "DDG: load()"])]⟩

theorem build_covers_template :
    template.graph? 1 = some templateGraph ∧
    (∀ n, (template.unit 1).Reaches n → n ∈ templateGraph.nodes) ∧
    ∃ m link, Passes template.context (template.unit 1) template.state () m ∧
      m.stack.head? = some (3, some 2) ∧ m.callee? 2 = some link ∧ link.returns ≠ [] ∧
      ∀ r ∈ link.returns, templateGraph.hasEdge r 3 = true := by
  have hunit : template.hasUnit 1 = true := by decide +kernel
  have hgraph : template.graph? 1 = some templateGraph := by decide +kernel
  obtain ⟨s', hrun⟩ := Sample.run hgraph
  obtain ⟨hnodes, hedges⟩ := build_covers (Sample.loaded hunit) template.over_state
    (Sample.get?_unit hunit) (by decide +kernel) hrun
  have hreach : (template.unit 1).Reaches 2 := by
    rw [CodeUnit.Reaches, Sample.id_unit hunit]
    exact .single (by decide +kernel)
  refine ⟨hgraph, hnodes, ?_⟩
  exact (hedges 2 3 hreach (by decide +kernel)).resolve_left (by decide +kernel)

/-! ### A call by another name -/

/-- `run = load; out = run()`: what is called is a function of the package, under another name than
the one it was declared with. -/
def aliasedCall : Sample where
  code := .sketch
    [(1, "METHOD", [("NAME", ":program"), ("FILENAME", "index.js")]),
      (2, "CALL", [("NAME", "<operator>.assignment")]),
      (3, "IDENTIFIER", [("CODE", "run"), ("ORDER", "1")]),
      (4, "IDENTIFIER", [("CODE", "load"), ("ORDER", "2")]),
      (5, "CALL", [("NAME", "run"), ("CODE", "run()"), ("ORDER", "2")]),
      (6, "CALL", [("NAME", "<operator>.assignment")]),
      (7, "IDENTIFIER", [("CODE", "out"), ("ORDER", "1")]),
      (10, "METHOD", [("NAME", "load"), ("FILENAME", "index.js")])]
    [(2, 3), (2, 4), (6, 7), (6, 5)]
  exports :=
    ["digraph \x7b 1 -> 2 -> 5 -> 6 [label=CFG] 5 -> 6 [label=\"DDG: run()\"] \x7d",
      "digraph \x7b 10 \x7d"]

def aliasedGraph : BehaviorGraph where
  entrance := 1
  nodes := [1, 2, 5, 6]
  edges := ⟨[((1, 2), ["CFG"]), ((2, 5), ["CFG"]), ((5, 6), ["CFG"])]⟩

theorem not_data_aliasedGraph (a : NodeId) : aliasedGraph.edgeKind? a 6 ≠ some .data := by
  intro ha
  have hleads : aliasedGraph.Leads .control a 6 := (leads_data.mpr ha).control
  have hfive : a = 5 := by
    have hmem := Edges.mem_successors.mp (leads_control.mp hleads)
    simpa [aliasedGraph, Table.keys] using hmem
  subst hfive
  revert ha
  decide +kernel

theorem hasUnit_aliasedCall : aliasedCall.hasUnit 1 = true := by decide +kernel

theorem graph?_aliasedCall : aliasedCall.graph? 1 = some aliasedGraph := by decide +kernel

theorem reaches_aliasedCall : (aliasedCall.unit 1).Reaches 5 := by
  rw [CodeUnit.Reaches, Sample.id_unit hasUnit_aliasedCall]
  exact .tail (b := 2) (.single (by decide +kernel)) (by decide +kernel)

theorem build_keeps_data_aliasedCall :
    (aliasedCall.unit 1).edgeKind? 5 6 = some .data ∧ aliasedCall.graph? 1 = some aliasedGraph ∧
    ∃ m, Passes aliasedCall.context (aliasedCall.unit 1) aliasedCall.state () m ∧
      m.stack.head? = some (6, some 5) ∧ 6 ∉ m.visited ∧
      Weakens aliasedCall.context m.state.arena 5 6 m.graph aliasedGraph := by
  have hdata : (aliasedCall.unit 1).edgeKind? 5 6 = some .data := by decide +kernel
  obtain ⟨s', hrun⟩ := Sample.run graph?_aliasedCall
  refine ⟨hdata, graph?_aliasedCall, ?_⟩
  rcases build_keeps_data (Sample.loaded hasUnit_aliasedCall) aliasedCall.over_state
    (Sample.get?_unit hasUnit_aliasedCall) (by decide +kernel) hrun 5 6 reaches_aliasedCall hdata
    with hfive | ⟨m, hm, htop, ⟨link, -, hne, hall⟩ | hw⟩
  · exact absurd hfive (not_data_aliasedGraph 5)
  · obtain ⟨r, hr⟩ := List.exists_mem_of_ne_nil _ hne
    exact absurd (hall r hr) (not_data_aliasedGraph r)
  · exact ⟨m, hm, htop, hw⟩

/-- An edge of data ends in an assignment to which no data leads in the graph. -/
theorem data_lost_aliasedCall :
    Loaded aliasedCall.code aliasedCall.context.index.units aliasedCall.read.2 ∧
    aliasedCall.state.Over aliasedCall.read.2 ∧
    (∀ n ∈ (aliasedCall.unit 1).nodes, n ≠ 1 → aliasedCall.read.2.isEntrance n = false) ∧
    (aliasedCall.unit 1).Reaches 5 ∧ (aliasedCall.unit 1).edgeKind? 5 6 = some .data ∧
    aliasedCall.graph? 1 = some aliasedGraph ∧ ∀ a, aliasedGraph.edgeKind? a 6 ≠ some .data :=
  ⟨Sample.loaded hasUnit_aliasedCall, aliasedCall.over_state, by decide +kernel, reaches_aliasedCall,
    by decide +kernel, graph?_aliasedCall, not_data_aliasedGraph⟩

end PackageVet.Building

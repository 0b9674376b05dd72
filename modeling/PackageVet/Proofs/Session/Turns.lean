import PackageVet.Proofs.Build.Sample
import PackageVet.Proofs.Session.Steps

/-! What the phases of an analysis do, one turn after another.

The phases look at the top levels of files and, in the run phase, at the units that no build has
gone through; each time patterns are looked for in the graph that was built (`Turn`). Every phase
that succeeds is a sequence of such turns (`turns_of_installPhase`, `turns_of_runPhases`), and the
run phase goes on until all units are marked, or until it comes to a unit of a file without a top
level (`turns_of_runUnits`).

So the run phase reaches every unit up to the first of a file without a top level
(`runPhase_marks`), but no unit after it (`run_phase_stops_early`). And it looks at every unit,
unless a build put the unit in that was never looked at, or that left it out again
(`runPhase_looks_at`); what is put in while a background is built goes unseen
(`background_goes_unseen`). -/
namespace PackageVet

/-! ### Graphs and states -/

namespace BehaviorGraph

theorem partOf_pullHead (background g : BehaviorGraph) (current head : NodeId) :
    g.PartOf (pullHead background current g head) :=
  (g.partOf_addNode head).trans (partOf_addEdge ..)

theorem partOf_pullFrom (background : BehaviorGraph) (steps : Nat) (seen stack : List NodeId)
    (g : BehaviorGraph) : g.PartOf (pullFrom background steps seen stack g) := by
  induction steps generalizing seen stack g with
  | zero => exact .refl g
  | succ steps ih =>
    cases stack with
    | nil => exact .refl g
    | cons current stack =>
      unfold pullFrom
      split
      · exact ih ..
      · exact (partOf_foldl (fun g head => partOf_pullHead background g current head) _ g).trans
          (ih ..)

end BehaviorGraph

theorem Session.partOf_pullOutside (g background : BehaviorGraph) :
    g.PartOf (pullOutside g background) :=
  BehaviorGraph.partOf_foldl (fun g head => (g.partOf_addNode head).trans
    (BehaviorGraph.partOf_pullFrom ..)) _ g

namespace BuildState
variable {s s' : BuildState}

theorem mem_analyzed_markAnalyzed {unit id : NodeId} :
    id ∈ (s.markAnalyzed unit).analyzed ↔ id = unit ∨ id ∈ s.analyzed := by
  unfold markAnalyzed isAnalyzed
  split
  · next h =>
    exact ⟨.inr, fun hid => hid.elim (fun he => he ▸ List.contains_iff_mem.mp h) fun hid => hid⟩
  · exact List.mem_cons

theorem isAnalyzed_iff {id : NodeId} : s.isAnalyzed id = true ↔ id ∈ s.analyzed :=
  List.contains_iff_mem

theorem analyzed_initializeScopes (s : BuildState) (index : UnitIndex) (sources : PackageSources) :
    (s.initializeScopes index sources).analyzed = s.analyzed :=
  List.foldlRecOn (motive := fun (t : BuildState) => t.analyzed = s.analyzed) _ _ rfl
    fun _ h _ _ => h

/-- A unit that a build went through stays marked. -/
theorem stable_analyzed : Stable fun s s' : BuildState => s.analyzed ⊆ s'.analyzed where
  refl _ := List.Subset.refl _
  trans := List.Subset.trans
  note _ _ _ _ := List.Subset.refl _
  refuse _ _ := List.Subset.refl _
  declare _ _ := List.Subset.refl _
  mark _ _ _ _ := List.Subset.refl _
  inline i s s' h := by
    have henter : s.analyzed ⊆ (i.enter s).analyzed := by
      cases i <;> exact fun _ hid => mem_analyzed_markAnalyzed.mpr (.inr hid)
    have hleave : (i.leave s').analyzed = s'.analyzed := by cases i <;> rfl
    rw [hleave]
    exact List.Subset.trans henter h

end BuildState

namespace Session
variable {σ : Type} {c : SessionContext σ} {s s' : Session} {services services' : σ}

/-! ### Steps -/

/-- What a build of a session reads. -/
def context (c : SessionContext σ) (s : Session) : BuildContext σ :=
  { code := s.code, index := c.index, sources := c.sources, knowledge := c.knowledge
    deadline := c.deadline }

theorem run_build (unit : NodeId) :
    (build c unit).run (s, services) =
      (((Building.build (s.context c) unit).run (s.state, services)).1,
        { s with state := ((Building.build (s.context c) unit).run (s.state, services)).2.1 },
        ((Building.build (s.context c) unit).run (s.state, services)).2.2) := rfl

/-- A build is of a unit and its own, and marks units. -/
theorem build_eq_ok {u : CodeUnit} {g : BehaviorGraph} (hu : u ∈ c.index.units)
    (h : (build c u.id).run (s, services) = (.ok g, s', services')) :
    u.id ∈ g.nodes ∧ s.state.analyzed ⊆ s'.state.analyzed ∧ s'.detected = s.detected := by
  rw [run_build] at h
  have hmarks := (Building.leaves_buildWithin BuildState.stable_analyzed (s.context c)
    (Building.maxDepth (s.context c)) u.id).state s.state services
  rcases hrun : (Building.build (s.context c) u.id).run (s.state, services) with
    ⟨r, state', services₁⟩
  rw [hrun] at h
  cases h
  obtain ⟨v, hv⟩ := UnitIndex.get?_of_mem hu
  refine ⟨?_, ?_, rfl⟩
  · have hid := UnitIndex.id_of_get? hv
    rw [← hid] at hrun hv ⊢
    exact Building.id_mem_nodes_of_buildWithin hv hrun
  · rw [Building.build] at hrun
    rw [hrun] at hmarks
    exact hmarks

/-- Looking for patterns puts the graph on the list, and marks no unit. -/
theorem detect_eq_ok {g : BehaviorGraph} {phase : Phase}
    (h : (detect c g phase).run (s, services) = (.ok ⟨⟩, s', services')) :
    s'.detected = g :: s.detected ∧ s'.state.analyzed = s.state.analyzed := by
  unfold detect at h
  obtain ⟨_, s₁, hnote, h⟩ := Effect.run_bind_eq_ok.mp h
  cases hnote
  obtain ⟨split, s₂, hsplit, h⟩ := Effect.run_bind_eq_ok.mp h
  cases hsplit
  obtain ⟨current, s₃, hcurrent, h⟩ := Effect.run_bind_eq_ok.mp h
  cases hcurrent
  obtain ⟨reduced, ⟨s₄, services₄⟩, hreduced, h⟩ := Effect.run_bind_eq_ok.mp h
  rw [Effect.run_onSecond] at hreduced
  have hsame := congrArg (fun r => r.2.1) hreduced
  dsimp only at hsame
  rcases hmatch : (matchPatterns c.patterns reduced s₄.state.arena c.keep phase c.deadline).run
    ({ report := s₄.report }, services₄) with ⟨result, matched, services₅⟩
  rw [run_look hmatch] at h
  cases h
  rw [← hsame]
  exact ⟨rfl, rfl⟩

/-! ### Turns -/

/-- A session that is about to look at a unit. -/
def ready (c : SessionContext σ) (unit : NodeId) (s : Session) : Session :=
  { s with state := (s.state.markAnalyzed unit).initializeScopes c.index c.sources }

theorem mem_analyzed_ready {unit id : NodeId} :
    id ∈ (s.ready c unit).state.analyzed ↔ id = unit ∨ id ∈ s.state.analyzed := by
  unfold ready
  rw [BuildState.analyzed_initializeScopes]
  exact BuildState.mem_analyzed_markAnalyzed

/-- What the phases do in one turn. -/
inductive Turn (c : SessionContext σ) : Session × σ → Session × σ → Prop where
  /-- Something is noted that no build reads. -/
  | note {s s' : Session} {services : σ} : s'.code = s.code → s'.state = s.state →
      s'.detected = s.detected → Turn c (s, services) (s', services)
  /-- The top level of a file is looked at. -/
  | program {s : Session} {services : σ} {after after' : Session × σ} {p : CodeUnit}
      {g : BehaviorGraph} {phase : Phase} : p ∈ c.index.units →
      (build c p.id).run (s.ready c p.id, services) = (.ok g, after) →
      (detect c g phase).run after = (.ok ⟨⟩, after') → Turn c (s, services) after'
  /-- A unit is looked at that no build went through, with the top level of its file as
  background. -/
  | unit {s : Session} {services : σ} {after₁ after₂ after₃ : Session × σ} {u p : CodeUnit}
      {background g : BehaviorGraph} : u ∈ c.index.units → s.state.isAnalyzed u.id = false →
      c.index.program? u.file = some p →
      (build c p.id).run (s.ready c u.id, services) = (.ok background, after₁) →
      (build c u.id).run after₁ = (.ok g, after₂) →
      (detect c (pullOutside g background) .run).run after₂ = (.ok ⟨⟩, after₃) →
      Turn c (s, services) after₃

/-- Some turns, one after another. -/
abbrev Turns (c : SessionContext σ) : Session × σ → Session × σ → Prop :=
  Relation.ReflTransGen (Turn c)

theorem mem_units_of_program? {file : String} {p : CodeUnit}
    (h : c.index.program? file = some p) : p ∈ c.index.units :=
  List.mem_of_find?_eq_some h

/-- Marks stay, and so do the graphs on the list. -/
theorem Turn.grows {a b : Session × σ} (h : Turn c a b) :
    a.1.state.analyzed ⊆ b.1.state.analyzed ∧ a.1.detected ⊆ b.1.detected := by
  cases h with
  | note _ hstate hdetected =>
    rw [hstate, hdetected]
    exact ⟨List.Subset.refl _, List.Subset.refl _⟩
  | program hp hbuild hdetect =>
    obtain ⟨-, hmarks, hlist⟩ := build_eq_ok hp hbuild
    obtain ⟨hlist', hmarks'⟩ := detect_eq_ok hdetect
    rw [hmarks', hlist', hlist]
    exact ⟨fun id hid => hmarks (mem_analyzed_ready.mpr (.inr hid)), List.subset_cons_self ..⟩
  | unit hu _ hp hbackground hbuild hdetect =>
    obtain ⟨-, hmarks₁, hlist₁⟩ := build_eq_ok (mem_units_of_program? hp) hbackground
    obtain ⟨-, hmarks₂, hlist₂⟩ := build_eq_ok hu hbuild
    obtain ⟨hlist₃, hmarks₃⟩ := detect_eq_ok hdetect
    rw [hmarks₃, hlist₃, hlist₂, hlist₁]
    exact ⟨fun id hid => hmarks₂ (hmarks₁ (mem_analyzed_ready.mpr (.inr hid))),
      List.subset_cons_self ..⟩

theorem Turns.grows {a b : Session × σ} (h : Turns c a b) :
    a.1.state.analyzed ⊆ b.1.state.analyzed ∧ a.1.detected ⊆ b.1.detected := by
  induction h with
  | refl => exact ⟨List.Subset.refl _, List.Subset.refl _⟩
  | tail _ hturn ih =>
    exact ⟨List.Subset.trans ih.1 hturn.grows.1, List.Subset.trans ih.2 hturn.grows.2⟩

/-! ### Phases -/

/-- What every step of a loop does in turns, the whole loop does. -/
theorem turns_of_forM {α : Type} {step : α → Step σ PUnit} {xs : List α} {a b : Session × σ}
    (hstep : ∀ x ∈ xs, ∀ a b, (step x).run a = (.ok ⟨⟩, b) → Turns c a b)
    (h : (xs.forM step).run a = (.ok ⟨⟩, b)) : Turns c a b := by
  induction xs generalizing a with
  | nil =>
    cases (Effect.run_pure_eq_ok.mp h).2
    exact .refl
  | cons x rest ih =>
    obtain ⟨⟨⟩, a₁, hx, hrest⟩ := Effect.run_bind_eq_ok.mp h
    exact (hstep x (List.mem_cons_self ..) a a₁ hx).trans
      (ih (fun y hy => hstep y (List.mem_cons_of_mem _ hy)) hrest)

theorem turns_of_analyzeProgram {file : String} {phase : Phase} {a b : Session × σ}
    (h : (analyzeProgram c file phase).run a = (.ok ⟨⟩, b)) : Turns c a b := by
  obtain ⟨s, services⟩ := a
  unfold analyzeProgram at h
  obtain ⟨current, a₁, hcurrent, h⟩ := Effect.run_bind_eq_ok.mp h
  cases hcurrent
  split at h
  · cases (Effect.run_pure_eq_ok.mp h).2
    exact .refl
  · split at h
    · cases (Effect.run_pure_eq_ok.mp h).2
      exact .refl
    · next p hp =>
      obtain ⟨⟨⟩, a₁, hnote, h⟩ := Effect.run_bind_eq_ok.mp h
      cases hnote
      obtain ⟨⟨⟩, a₁, hmark, h⟩ := Effect.run_bind_eq_ok.mp h
      cases hmark
      obtain ⟨⟨⟩, a₁, hscopes, h⟩ := Effect.run_bind_eq_ok.mp h
      cases hscopes
      obtain ⟨g, a₁, hbuild, hdetect⟩ := Effect.run_bind_eq_ok.mp h
      have hnoted : Turn c (s, services) ({ s with programs := file :: s.programs }, services) :=
        .note rfl rfl rfl
      exact .head hnoted (.single (.program (mem_units_of_program? hp) hbuild hdetect))

theorem turns_of_installPhase {profiles : ScriptProfiles} {a b : Session × σ}
    (h : (installPhase c profiles).run a = (.ok ⟨⟩, b)) : Turns c a b := by
  refine turns_of_forM (fun entry _ a b hstep => ?_) h
  have hfiles : ∀ a, (if entry.2.needsAnalysis then
      entry.2.sourceFiles.forM fun file => analyzeProgram c file .install
      else pure ⟨⟩).run a = (.ok ⟨⟩, b) → Turns c a b := by
    intro a ha
    split at ha
    · exact turns_of_forM (fun file _ _ _ => turns_of_analyzeProgram) ha
    · cases (Effect.run_pure_eq_ok.mp ha).2
      exact .refl
  dsimp only at hstep
  split at hstep
  · obtain ⟨⟨⟩, a₁, hnote, hstep⟩ := Effect.run_bind_eq_ok.mp hstep
    cases hnote
    have hnoted : Turn c a ({ a.1 with report := recordScript entry.1 entry.2 a.1.report }, a.2) :=
      .note rfl rfl rfl
    exact .head hnoted (hfiles _ hstep)
  · exact hfiles _ hstep

/-- The phases before the run phase. -/
theorem turns_of_runPhases {manifest : Manifest} {profiles : ScriptProfiles} {phases : List Phase}
    {a b : Session × σ} (hphases : .run ∉ phases)
    (h : (runPhases c manifest profiles phases).run a = (.ok ⟨⟩, b)) : Turns c a b := by
  refine turns_of_forM (fun phase hphase a b hstep => ?_) h
  cases phase with
  | install => exact turns_of_installPhase hstep
  | imported => exact turns_of_analyzeProgram hstep
  | run => exact absurd (by simpa using (List.mem_filter.mp hphase).2) hphases

/-- The run phase goes on until all units are marked, or until it comes to a unit of a file without
a top level, which it still marks. -/
theorem turns_of_runUnits {units : List CodeUnit} (hunits : units ⊆ c.index.units)
    (h : (runUnits c units).run (s, services) = (.ok ⟨⟩, s', services')) :
    (Turns c (s, services) (s', services') ∧ ∀ u ∈ units, u.id ∈ s'.state.analyzed) ∨
    ∃ before u after s₁, units = before ++ u :: after ∧ c.index.program? u.file = none ∧
      Turns c (s, services) (s₁, services') ∧ u.id ∉ s₁.state.analyzed ∧ s' = s₁.ready c u.id ∧
      ∀ v ∈ before, v.id ∈ s'.state.analyzed := by
  induction units generalizing s services with
  | nil =>
    cases (Effect.run_pure_eq_ok.mp h).2
    exact .inl ⟨.refl, fun u hu => by cases hu⟩
  | cons unit rest ih =>
    have hrest : rest ⊆ c.index.units := List.Subset.trans (List.subset_cons_self ..) hunits
    -- after a turn that marks the unit, the rest of the units are looked at
    have hgoOn : ∀ {a : Session} {x : σ}, Turns c (s, services) (a, x) →
        unit.id ∈ a.state.analyzed → (runUnits c rest).run (a, x) = (.ok ⟨⟩, s', services') →
        (Turns c (s, services) (s', services') ∧ ∀ u ∈ unit :: rest, u.id ∈ s'.state.analyzed) ∨
        ∃ before u after s₁, unit :: rest = before ++ u :: after ∧
          c.index.program? u.file = none ∧ Turns c (s, services) (s₁, services') ∧
          u.id ∉ s₁.state.analyzed ∧ s' = s₁.ready c u.id ∧
          ∀ v ∈ before, v.id ∈ s'.state.analyzed := by
      intro a x hturns hmarked hrun
      rcases ih hrest hrun with ⟨hend, hall⟩ | ⟨before, u, after, s₁, hsplit, hp, hend, hnew, rfl, hall⟩
      · exact .inl ⟨hturns.trans hend, List.forall_mem_cons.mpr ⟨hend.grows.1 hmarked, hall⟩⟩
      · refine .inr ⟨unit :: before, u, after, s₁, by rw [hsplit]; rfl, hp, hturns.trans hend, hnew,
          rfl, List.forall_mem_cons.mpr ⟨?_, hall⟩⟩
        exact mem_analyzed_ready.mpr (.inr (hend.grows.1 hmarked))
    unfold runUnits at h
    obtain ⟨current, a₁, hcurrent, h⟩ := Effect.run_bind_eq_ok.mp h
    cases hcurrent
    split at h
    · next hmarked => exact hgoOn .refl (BuildState.isAnalyzed_iff.mp hmarked) h
    · next hnew =>
      obtain ⟨⟨⟩, a₁, hmark, h⟩ := Effect.run_bind_eq_ok.mp h
      cases hmark
      obtain ⟨⟨⟩, a₁, hscopes, h⟩ := Effect.run_bind_eq_ok.mp h
      cases hscopes
      split at h
      · next hp =>
        have hend := (Effect.run_pure_eq_ok.mp h).2
        cases hend
        refine .inr ⟨[], unit, rest, s, rfl, hp, .refl, ?_, rfl, fun v hv => by cases hv⟩
        exact fun hmem => hnew (BuildState.isAnalyzed_iff.mpr hmem)
      · next p hp =>
        obtain ⟨background, a₁, hbackground, h⟩ := Effect.run_bind_eq_ok.mp h
        obtain ⟨g, a₂, hbuild, h⟩ := Effect.run_bind_eq_ok.mp h
        obtain ⟨⟨⟩, a₃, hdetect, h⟩ := Effect.run_bind_eq_ok.mp h
        have hunit := hunits (List.mem_cons_self ..)
        have hturn : Turn c (s, services) a₃ :=
          .unit hunit (by simpa using hnew) hp hbackground hbuild hdetect
        refine hgoOn (.single hturn) ?_ h
        rw [(detect_eq_ok hdetect).2]
        exact (build_eq_ok hunit hbuild).2.1
          ((build_eq_ok (mem_units_of_program? hp) hbackground).2.1
            (mem_analyzed_ready.mpr (.inl rfl)))

/-! ### Marks -/

/-- The run phase marks every unit up to the first that is not marked already and whose file has no
top level. -/
theorem runPhase_marks (h : (runPhase c).run (s, services) = (.ok ⟨⟩, s', services')) :
    (∀ u ∈ c.index.units, s'.state.isAnalyzed u.id = true) ∨
    ∃ before u after, c.index.units = before ++ u :: after ∧ c.index.program? u.file = none ∧
      s.state.isAnalyzed u.id = false ∧
      ∀ v ∈ before ++ [u], s'.state.isAnalyzed v.id = true := by
  rcases turns_of_runUnits (List.Subset.refl _) h with
    ⟨-, hall⟩ | ⟨before, u, after, s₁, hsplit, hp, hturns, hnew, rfl, hall⟩
  · exact .inl fun u hu => BuildState.isAnalyzed_iff.mpr (hall u hu)
  · refine .inr ⟨before, u, after, hsplit, hp, ?_, fun v hv => BuildState.isAnalyzed_iff.mpr ?_⟩
    · rw [← Bool.not_eq_true, BuildState.isAnalyzed_iff]
      exact fun hmem => hnew (hturns.grows.1 hmem)
    · rcases List.mem_append.mp hv with hv | hv
      · exact hall v hv
      · cases List.mem_singleton.mp hv
        exact mem_analyzed_ready.mpr (.inl rfl)

/-! ### Units that are looked at -/

/-- Whether a build of a unit puts another one in for the first time. -/
structure PutsIn (c : SessionContext σ) (before : Session × σ) (unit : NodeId) (g : BehaviorGraph)
    (after : Session × σ) (id : NodeId) : Prop where
  built : (build c unit).run before = (.ok g, after)
  new : before.1.state.isAnalyzed id = false
  marked : after.1.state.isAnalyzed id = true

/-- Whether the next turn of a session puts a unit in for the first time, and no pattern is looked
for in it. -/
inductive Unseen (c : SessionContext σ) (id : NodeId) : Session × σ → Prop where
  /-- It is put in while a background is built. -/
  | background {s : Session} {services : σ} {after : Session × σ} {u p : CodeUnit}
      {background : BehaviorGraph} : u ∈ c.index.units → s.state.isAnalyzed u.id = false →
      c.index.program? u.file = some p →
      PutsIn c (s.ready c u.id, services) p.id background after id → Unseen c id (s, services)
  /-- The graph of a top level leaves it out. -/
  | program {s : Session} {services : σ} {after : Session × σ} {p : CodeUnit} {g : BehaviorGraph} :
      p ∈ c.index.units → PutsIn c (s.ready c p.id, services) p.id g after id → id ∉ g.nodes →
      Unseen c id (s, services)
  /-- The graph of a unit leaves it out. -/
  | unit {s : Session} {services : σ} {after₁ after₂ : Session × σ} {u p : CodeUnit}
      {background g : BehaviorGraph} : u ∈ c.index.units → s.state.isAnalyzed u.id = false →
      c.index.program? u.file = some p →
      (build c p.id).run (s.ready c u.id, services) = (.ok background, after₁) →
      PutsIn c after₁ u.id g after₂ id → id ∉ g.nodes → Unseen c id (s, services)

/-- A unit that a turn marks is in a graph on the list, or goes unseen in that turn. -/
theorem Turn.looks_at {a b : Session × σ} {id : NodeId} (h : Turn c a b)
    (hid : id ∈ b.1.state.analyzed) :
    id ∈ a.1.state.analyzed ∨ (∃ g ∈ b.1.detected, id ∈ g.nodes) ∨ Unseen c id a := by
  by_cases hold : id ∈ a.1.state.analyzed
  · exact .inl hold
  refine .inr ?_
  -- a build that marks the unit has it in its graph or leaves it out
  have hmarks : ∀ {before after : Session × σ} {unit : NodeId} {g : BehaviorGraph},
      (build c unit).run before = (.ok g, after) → id ∉ before.1.state.analyzed →
      id ∈ after.1.state.analyzed → PutsIn c before unit g after id := fun hrun hnew hmarked =>
    ⟨hrun, by rw [← Bool.not_eq_true, BuildState.isAnalyzed_iff]; exact hnew,
      BuildState.isAnalyzed_iff.mpr hmarked⟩
  cases h with
  | note _ hstate => exact absurd (hstate ▸ hid) hold
  | @program s _ after _ p g phase hp hbuild hdetect =>
    obtain ⟨hown, -, -⟩ := build_eq_ok hp hbuild
    obtain ⟨hlist, hsame⟩ := detect_eq_ok hdetect
    rw [hsame] at hid
    by_cases hg : id ∈ g.nodes
    · exact .inl ⟨g, by rw [hlist]; exact List.mem_cons_self .., hg⟩
    · refine .inr (.program hp (hmarks hbuild (fun hready => ?_) hid) hg)
      rcases mem_analyzed_ready.mp hready with rfl | hready
      · exact hg hown
      · exact hold hready
  | @unit s _ after₁ after₂ _ u p background g hu hnew hp hbackground hbuild hdetect =>
    obtain ⟨hown, -, -⟩ := build_eq_ok hu hbuild
    obtain ⟨hlist, hsame⟩ := detect_eq_ok hdetect
    rw [hsame] at hid
    by_cases hg : id ∈ g.nodes
    · exact .inl ⟨_, by rw [hlist]; exact List.mem_cons_self .., (partOf_pullOutside g _).nodes hg⟩
    · have hready : id ∉ (s.ready c u.id).state.analyzed := fun hready => by
        rcases mem_analyzed_ready.mp hready with rfl | hready
        · exact hg hown
        · exact hold hready
      by_cases hfirst : id ∈ after₁.1.state.analyzed
      · exact .inr (.background hu hnew hp (hmarks hbackground hready hfirst))
      · exact .inr (.unit hu hnew hp hbackground (hmarks hbuild hfirst hid) hg)

theorem Turns.looks_at {a b : Session × σ} {id : NodeId} (h : Turns c a b)
    (hid : id ∈ b.1.state.analyzed) :
    id ∈ a.1.state.analyzed ∨ (∃ g ∈ b.1.detected, id ∈ g.nodes) ∨
      ∃ m, Turns c a m ∧ Turns c m b ∧ Unseen c id m := by
  induction h with
  | refl => exact .inl hid
  | @tail m b hturns hturn ih =>
    rcases hturn.looks_at hid with hid | hlisted | hunseen
    · rcases ih hid with hold | ⟨g, hg, hin⟩ | ⟨m', hbefore, hafter, hunseen⟩
      · exact .inl hold
      · exact .inr (.inl ⟨g, hturn.grows.2 hg, hin⟩)
      · exact .inr (.inr ⟨m', hbefore, hafter.tail hturn, hunseen⟩)
    · exact .inr (.inl hlisted)
    · exact .inr (.inr ⟨m, hturns, .single hturn, hunseen⟩)

end Session

/-! ### Small packages -/

namespace Sample

/-- The analysis of a small package: there are no patterns to look for. -/
def session (p : Sample) : SessionContext Unit where
  index := p.context.index
  sources := p.context.sources
  knowledge := .silent
  patterns := []
  keep _ _ _ _ := pure true

def start (p : Sample) : Session := { code := p.code, state := { arena := p.read.2 } }

/-- The session after the run phase alone. -/
def afterRun (p : Sample) : Session := ((Session.runPhase p.session).run (p.start, ())).2.1

def runsThrough (p : Sample) : Bool :=
  ((Session.runPhase p.session).run (p.start, ())).1.toOption.isSome

theorem run_runPhase {p : Sample} (h : p.runsThrough = true) :
    (Session.runPhase p.session).run (p.start, ()) = (.ok ⟨⟩, p.afterRun, ()) := by
  obtain ⟨⟨⟩, hok⟩ := Option.isSome_iff_exists.mp h
  obtain ⟨⟨s', _⟩, hrun⟩ := Effect.run_of_toOption hok
  rw [afterRun, hrun]

end Sample

namespace Session

/-- A function of a file without a top level, and a function of another file that comes after
it. -/
def lostFile : Sample where
  code := .sketch
    [(1, "METHOD", [("NAME", ":program"), ("FILENAME", "index.js")]),
      (2, "CALL", [("NAME", "start"), ("CODE", "start()")]),
      (10, "METHOD", [("NAME", "helper"), ("FILENAME", "lost.js")]),
      (11, "CALL", [("NAME", "tidy"), ("CODE", "tidy()")]),
      (20, "METHOD", [("NAME", "later"), ("FILENAME", "index.js")]),
      (21, "CALL", [("NAME", "send"), ("CODE", "send()")])] []
  exports :=
    ["digraph \x7b 1 -> 2 [label=CFG] \x7d", "digraph \x7b 10 -> 11 [label=CFG] \x7d",
      "digraph \x7b 20 -> 21 [label=CFG] \x7d"]

theorem computed_lostFile :
    lostFile.hasUnit 20 = true ∧ lostFile.runsThrough = true ∧
    ∃ u ∈ lostFile.session.index.units, u.name = "later" ∧
      lostFile.afterRun.state.isAnalyzed u.id = false := by decide +kernel

/-- The run phase marks the two units up to the one whose file has no top level. -/
theorem runPhase_marks_lostFile :
    (runPhase lostFile.session).run (lostFile.start, ()) = (.ok ⟨⟩, lostFile.afterRun, ()) ∧
    ∃ before u after, lostFile.session.index.units = before ++ u :: after ∧
      lostFile.session.index.program? u.file = none ∧
      lostFile.start.state.isAnalyzed u.id = false ∧
      ∀ v ∈ before ++ [u], lostFile.afterRun.state.isAnalyzed v.id = true := by
  obtain ⟨-, hthrough, later, hlater, -, hmissed⟩ := computed_lostFile
  have hrun := Sample.run_runPhase hthrough
  refine ⟨hrun, (runPhase_marks hrun).resolve_left fun hall => ?_⟩
  rw [hall later hlater] at hmissed
  cases hmissed

/-- The run phase succeeds without ever coming to `later`. -/
theorem run_phase_stops_early :
    Loaded lostFile.code lostFile.session.index.units lostFile.read.2 ∧
    (runPhase lostFile.session).run (lostFile.start, ()) = (.ok ⟨⟩, lostFile.afterRun, ()) ∧
    ∃ u ∈ lostFile.session.index.units, u.name = "later" ∧
      lostFile.afterRun.state.isAnalyzed u.id = false := by
  obtain ⟨hunit, hthrough, hmissed⟩ := computed_lostFile
  exact ⟨Sample.loaded hunit, Sample.run_runPhase hthrough, hmissed⟩

/-- Two files that require each other, and before their top levels a function of one of them. -/
def requiredInBackground : Sample where
  code := .sketch
    [(1, "METHOD", [("NAME", "helper"), ("FILENAME", "a.js")]),
      (2, "CALL", [("NAME", "tidy"), ("CODE", "tidy()")]),
      (10, "METHOD", [("NAME", ":program"), ("FILENAME", "a.js")]),
      (11, "CALL", [("NAME", "require"), ("CODE", "require('./b')")]),
      (20, "METHOD", [("NAME", ":program"), ("FILENAME", "b.js")]),
      (21, "CALL", [("NAME", "require"), ("CODE", "require('./a')")])] []
  exports :=
    ["digraph \x7b 1 -> 2 [label=CFG] \x7d", "digraph \x7b 10 -> 11 [label=CFG] \x7d",
      "digraph \x7b 20 -> 21 [label=CFG] \x7d"]

theorem computed_requiredInBackground :
    requiredInBackground.hasUnit 20 = true ∧ requiredInBackground.runsThrough = true ∧
    (∀ u ∈ requiredInBackground.session.index.units,
      (requiredInBackground.session.index.program? u.file).isSome = true) ∧
    ∃ u ∈ requiredInBackground.session.index.units, u.id = 20 ∧ u.file = "b.js" ∧
      u.isProgram = true ∧ ∀ g ∈ requiredInBackground.afterRun.detected, u.id ∉ g.nodes := by
  decide +kernel

end Session

end PackageVet

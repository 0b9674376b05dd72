import PackageVet.Proofs.InStep
import PackageVet.Proofs.Matching.Matches
import PackageVet.Proofs.Reduced.Search
import PackageVet.Session

/-! Analyses in step.

Two analyses of one package, next to services of their own, stay in step when their builds do, when
their time is up together and when they judge matches alike (`Session.Kept`): they come to the same
session, or to the same failure (`instep_runPhases`). -/
namespace PackageVet

/-! ### Looking for patterns -/

namespace Looking
variable {σ α : Type} {R : σ → σ → Prop} {arena : Arena} {keep : Keeper σ} {deadline : Deadline σ}

/-- Whether a step of looking for patterns is in step with itself, next to services that a relation
holds between. -/
abbrev Even (R : σ → σ → Prop) (step : Looking σ α) : Prop :=
  InStep (fun _ => R) (fun _ => R) step step fun _ _ => R

theorem even_onSecond {e : Effect AnalysisError σ α} (h : Uniform R e) :
    Even R (e.onSecond : Looking σ α) :=
  Uniform.onSecond (fun _ => h) fun _ hR => hR

theorem even_state : Even R (state : Looking σ Matched) :=
  ⟨fun hR => ⟨.ok _, _, _, _, rfl, rfl, hR⟩⟩

theorem even_change (f : Matched → Matched) : Even R (change f : Looking σ PUnit) :=
  ⟨fun hR => ⟨.ok ⟨⟩, _, _, _, rfl, rfl, hR⟩⟩

variable (htime : Uniform R deadline.check) (hkeep : ∀ p m report, Uniform R (keep p m arena report))
include htime hkeep

theorem even_judge (phase : Phase) (p : Pattern) (m : Mapping) :
    Even R (judge arena keep phase deadline p m) := by
  unfold judge
  refine (even_onSecond htime).bind fun _ => even_state.bind fun s => ?_
  refine (even_onSecond (hkeep p m s.report)).bind fun kept => ?_
  split
  · exact even_change _
  · exact .pure fun _ _ _ hR => hR

theorem even_search (r : ReducedGraph) (phase : Phase) (p : Pattern) :
    Even R (search r arena keep phase deadline p) := by
  unfold search
  refine even_state.bind fun s => ?_
  split
  · exact .pure fun _ _ _ hR => hR
  · have hfind := (p.comesTo_matchesInM deadline.check r).uniform htime
    refine (even_onSecond hfind).bind fun mappings => ?_
    split
    · exact .pure fun _ _ _ hR => hR
    · exact (even_change _).bind fun _ => InStep.forM fun m _ => even_judge htime hkeep phase p m

theorem even_matchPatterns (library : List Pattern) (r : ReducedGraph) (phase : Phase) :
    Even R (matchPatterns library r arena keep phase deadline) := by
  unfold matchPatterns
  split
  · exact .pure fun _ _ _ hR => hR
  · exact InStep.forM fun p _ => even_search htime hkeep r phase p

end Looking

/-! ### Phases -/

namespace Session
variable {σ : Type} {c : SessionContext σ} {P : Session → σ → σ → Prop}
  {E : AnalysisError → σ → σ → Prop}

/-- Whether the steps of an analysis keep what holds of the session and of both services. -/
structure Kept (c : SessionContext σ) (P : Session → σ → σ → Prop)
    (E : AnalysisError → σ → σ → Prop) : Prop where
  build : ∀ unit, InStep P E (build c unit) (build c unit) fun _ => P
  /-- What holds is about the code and the state of the builds alone. -/
  note : ∀ {s s' x y}, s'.code = s.code → s'.state = s.state → P s x y → P s' x y
  split : ∀ {s x y} (split : Splitting) (g : BehaviorGraph),
    split = Splitting.splitAll { graph := g, arena := s.state.arena, code := s.code } →
    P s x y → P { s with code := split.code, state := { s.state with arena := split.arena } } x y
  mark : ∀ {s x y} unit, P s x y → P { s with state := s.state.markAnalyzed unit } x y
  scopes : ∀ {s x y}, P s x y →
    P { s with state := s.state.initializeScopes c.index c.sources } x y
  /-- The time is up on both sides or on none. -/
  time : ∀ s, Uniform (P s) c.deadline.check
  /-- A match is kept on both sides or on none. -/
  keep : ∀ s p m arena report, Uniform (P s) (c.keep p m arena report)
  fails : ∀ {s x y} e, P s x y → E e x y

theorem instep_change {f : Session → Session} (h : ∀ s x y, P s x y → P (f s) x y) :
    InStep P E (change f : Step σ PUnit) (change f) fun _ => P :=
  ⟨fun hs => ⟨.ok ⟨⟩, _, _, _, rfl, rfl, h _ _ _ hs⟩⟩

theorem instep_current : InStep P E (current : Step σ Session) current fun _ => P :=
  ⟨fun hs => ⟨.ok _, _, _, _, rfl, rfl, hs⟩⟩

variable (h : Kept c P E)
include h

theorem instep_note {f : Session → Session} (hf : ∀ s, (f s).code = s.code ∧ (f s).state = s.state) :
    InStep P E (change f : Step σ PUnit) (change f) fun _ => P :=
  instep_change fun s _ _ hs => h.note (hf s).1 (hf s).2 hs

theorem instep_markAnalyzed (unit : NodeId) :
    InStep P E (markAnalyzed unit : Step σ PUnit) (markAnalyzed unit) fun _ => P :=
  instep_change fun _ _ _ hs => h.mark unit hs

theorem instep_initializeScopes :
    InStep P E (initializeScopes c) (initializeScopes c) fun _ => P :=
  instep_change fun _ _ _ hs => h.scopes hs

theorem instep_split (g : BehaviorGraph) :
    InStep P E (split g : Step σ BehaviorGraph) (split g) fun _ => P :=
  ⟨fun hs => ⟨.ok _, _, _, _, rfl, rfl, h.split _ g rfl hs⟩⟩

theorem instep_look (reduced : ReducedGraph) (phase : Phase) :
    InStep P E (look c reduced phase) (look c reduced phase) fun _ => P := by
  refine InStep.bind (Q := fun _ => P) ⟨fun {s x y} hs => ?_⟩
    fun added => instep_note h fun _ => ⟨rfl, rfl⟩
  obtain ⟨r, matched, x', y', hx, hy, hcame⟩ := (Looking.even_matchPatterns (h.time s)
    (fun p m report => h.keep s p m s.state.arena report) c.patterns reduced phase).run
    (t := { report := s.report }) hs
  rw [ExceptT.run_mk]
  dsimp only
  rw [hx, hy]
  refine ⟨_, { s with report := matched.report }, x', y', rfl, rfl, ?_⟩
  cases r with
  | ok => exact h.note (s := s) rfl rfl hcame
  | error e => exact h.fails e hcame

theorem instep_detect (g : BehaviorGraph) (phase : Phase) :
    InStep P E (detect c g phase) (detect c g phase) fun _ => P := by
  unfold detect
  refine InStep.bind (instep_note h fun _ => ⟨rfl, rfl⟩) fun _ => ?_
  refine (instep_split h g).bind fun g => instep_current.bind fun s => ?_
  have hreduce (t : Session) : Uniform (P t) (g.reduce s.state.arena c.deadline) :=
    (g.comesTo_reducedM s.state.arena).uniform (h.time t)
  exact (Uniform.onSecond hreduce fun _ hs => h.fails _ hs).bind fun reduced =>
    instep_look h reduced phase

theorem instep_analyzeProgram (file : String) (phase : Phase) :
    InStep P E (analyzeProgram c file phase) (analyzeProgram c file phase) fun _ => P := by
  unfold analyzeProgram
  refine instep_current.bind fun s => ?_
  split
  · exact .pure fun _ _ _ hs => hs
  · split
    · exact .pure fun _ _ _ hs => hs
    · next p _ =>
      refine InStep.bind (instep_note h fun _ => ⟨rfl, rfl⟩) fun _ => ?_
      refine (instep_markAnalyzed h p.id).bind fun _ => ?_
      refine (instep_initializeScopes h).bind fun _ => ?_
      exact (h.build p.id).bind fun g => instep_detect h g phase

theorem instep_installPhase (profiles : ScriptProfiles) :
    InStep P E (installPhase c profiles) (installPhase c profiles) fun _ => P := by
  refine InStep.forM fun entry _ => ?_
  have hfiles : InStep P E
      (if entry.2.needsAnalysis then
        entry.2.sourceFiles.forM fun file => analyzeProgram c file .install
      else pure ⟨⟩)
      (if entry.2.needsAnalysis then
        entry.2.sourceFiles.forM fun file => analyzeProgram c file .install
      else pure ⟨⟩) fun _ => P := by
    split
    · exact InStep.forM fun file _ => instep_analyzeProgram h file .install
    · exact .pure fun _ _ _ hs => hs
  dsimp only
  split
  · exact InStep.bind (instep_note h fun _ => ⟨rfl, rfl⟩) fun _ => hfiles
  · exact hfiles

theorem instep_runUnits (units : List CodeUnit) :
    InStep P E (runUnits c units) (runUnits c units) fun _ => P := by
  induction units with
  | nil => exact .pure fun _ _ _ hs => hs
  | cons unit rest ih =>
    unfold runUnits
    refine instep_current.bind fun s => ?_
    split
    · exact ih
    · refine (instep_markAnalyzed h unit.id).bind fun _ => ?_
      refine (instep_initializeScopes h).bind fun _ => ?_
      split
      · exact .pure fun _ _ _ hs => hs
      · next program _ =>
        refine (h.build program.id).bind fun background => (h.build unit.id).bind fun g => ?_
        exact (instep_detect h _ .run).bind fun _ => ih

theorem instep_runPhases (manifest : Manifest) (profiles : ScriptProfiles) (phases : List Phase) :
    InStep P E (runPhases c manifest profiles phases) (runPhases c manifest profiles phases)
      fun _ => P := by
  refine InStep.forM fun phase _ => ?_
  cases phase with
  | install => exact instep_installPhase h profiles
  | imported => exact instep_analyzeProgram h manifest.mainFile .imported
  | run => exact instep_runUnits h c.index.units

end Session

end PackageVet

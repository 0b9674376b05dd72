import PackageVet.Proofs.Effect
import PackageVet.Session

/-! What every step of an analysis leaves as it is.

The phases build graphs, split nodes, record scripts and findings, and note what was looked at. A
relation between sessions that allows each of these (`Allowed`) holds between the session before and
the session after every phase (`leaves_runPhases`). A phase that fails may have recorded findings
without counting them, so what it leaves is said by a relation of its own. Looking at one file needs
less: no scripts are recorded, and all findings are of one phase (`AllowsLooking`,
`leaves_analyzeProgram`). What these are comes down to the matches that are recorded
(`Looking.keeps_matchPatterns`). -/
namespace PackageVet

/-! ### Looking for patterns -/

namespace Looking
variable {σ α β : Type} {P : Matched → Prop}

/-- Whether a step keeps what holds of what was found, failed or not. -/
def Keeps (P : Matched → Prop) (step : Looking σ α) : Prop :=
  ∀ s x, P s → P (step.run (s, x)).2.1

theorem keeps_pure (a : α) : Keeps P (pure a : Looking σ α) := fun _ _ h => h

theorem keeps_state : Keeps P (state : Looking σ Matched) := fun _ _ h => h

theorem keeps_onSecond (e : Effect AnalysisError σ α) : Keeps P (e.onSecond : Looking σ α) := by
  intro s x h
  rw [Effect.run_onSecond]
  exact h

theorem keeps_change {f : Matched → Matched} (hf : ∀ s, P s → P (f s)) :
    Keeps P (change f : Looking σ PUnit) :=
  fun s _ h => hf s h

theorem Keeps.bind {step : Looking σ α} {next : α → Looking σ β} (hstep : Keeps P step)
    (hnext : ∀ a, Keeps P (next a)) : Keeps P (step >>= next) := by
  intro s x h
  have hfirst := hstep s x h
  rw [Effect.run_bind]
  rcases hrun : step.run (s, x) with ⟨e | a, s₁, x₁⟩ <;> rw [hrun] at hfirst
  · exact hfirst
  · exact hnext a s₁ x₁ hfirst

theorem keeps_forM {step : α → Looking σ PUnit} (hstep : ∀ a, Keeps P (step a)) (xs : List α) :
    Keeps P (xs.forM step) := by
  induction xs with
  | nil => exact keeps_pure _
  | cons a rest ih => exact (hstep a).bind fun _ => ih

variable {r : ReducedGraph} {arena : Arena} {keep : Keeper σ} {phase : Phase}
  {deadline : Deadline σ} (hmatched : ∀ s matched, P s → P { s with matched })
  (hrecord : ∀ s p m, P s → P (s.record phase arena p m))
include hrecord

theorem keeps_judge (p : Pattern) (m : Mapping) : Keeps P (judge arena keep phase deadline p m) := by
  unfold judge
  refine (keeps_onSecond _).bind fun _ => keeps_state.bind fun s => (keeps_onSecond _).bind ?_
  intro kept
  split
  · exact keeps_change fun s h => hrecord s p m h
  · exact keeps_pure _

include hmatched

theorem keeps_search (p : Pattern) : Keeps P (search r arena keep phase deadline p) := by
  unfold search
  refine keeps_state.bind fun s => ?_
  split
  · exact keeps_pure _
  · refine (keeps_onSecond _).bind fun mappings => ?_
    split
    · exact keeps_pure _
    · exact (keeps_change fun s h => hmatched s _ h).bind fun _ =>
        keeps_forM (keeps_judge hrecord p) mappings

/-- What recording a match keeps, looking for patterns keeps, however far it comes. -/
theorem keeps_matchPatterns (library : List Pattern) (r : ReducedGraph) (keep : Keeper σ)
    (deadline : Deadline σ) : Keeps P (matchPatterns library r arena keep phase deadline) := by
  unfold matchPatterns
  split
  · exact keeps_pure _
  · exact keeps_forM (keeps_search hmatched hrecord) library

end Looking

/-! ### Steps of an analysis -/

namespace Session
variable {σ α β : Type} {c : SessionContext σ} {P Q : Session → Session → Prop}

/-- The session after the nodes of a graph are split. -/
def afterSplit (s : Session) (g : BehaviorGraph) : Session :=
  let split := Splitting.splitAll { graph := g, arena := s.state.arena, code := s.code }
  { s with code := split.code, state := { s.state with arena := split.arena } }

/-- The session after patterns were looked for. What was found is counted at the end only. -/
def afterLooking (s : Session) (result : Except AnalysisError Unit) (matched : Matched) : Session :=
  { s with
    report := matched.report
    findings := match result with
      | .ok _ => s.findings + matched.added
      | .error _ => s.findings }

/-- Whether a relation allows what the phases do to a session apart from its report, and another
all that was done when a step fails. -/
structure AllowsWork (c : SessionContext σ) (P Q : Session → Session → Prop) : Prop where
  refl : ∀ s, P s s
  trans : ∀ {s t u}, P s t → P t u → P s u
  /-- What was looked at is noted. -/
  note : ∀ (s : Session) programs detected, P s { s with programs, detected }
  mark : ∀ (s : Session) unit, P s { s with state := s.state.markAnalyzed unit }
  scopes : ∀ s : Session, P s { s with state := s.state.initializeScopes c.index c.sources }
  build : ∀ s services unit, P s ((build c unit).run (s, services)).2.1
  split : ∀ s g, P s (s.afterSplit g)
  stop : ∀ {s t}, P s t → Q s t
  before : ∀ {s t u}, P s t → Q t u → Q s u

/-- Whether relations allow what looking at code in a phase does to a session. -/
structure AllowsLooking (c : SessionContext σ) (phase : Phase) (P Q : Session → Session → Prop) :
    Prop extends AllowsWork c P Q where
  found : ∀ {s : Session} {reduced services matched services'},
    (matchPatterns c.patterns reduced s.state.arena c.keep phase c.deadline).run
      ({ report := s.report }, services) = (.ok ⟨⟩, matched, services') →
    P s (s.afterLooking (.ok ⟨⟩) matched)
  broken : ∀ {s : Session} {reduced services e matched services'},
    (matchPatterns c.patterns reduced s.state.arena c.keep phase c.deadline).run
      ({ report := s.report }, services) = (.error e, matched, services') →
    Q s (s.afterLooking (.error e) matched)

/-- Whether relations allow all that the phases do to a session. -/
structure Allowed (c : SessionContext σ) (P Q : Session → Session → Prop) : Prop
    extends AllowsWork c P Q where
  looking : ∀ phase, AllowsLooking c phase P Q
  script : ∀ (s : Session) name profile, P s { s with report := recordScript name profile s.report }

/-- Whether a step leaves the session as one relation says, or another where it fails. -/
structure Leaves (P Q : Session → Session → Prop) (m : Step σ α) : Prop where
  ok : ∀ {s services a t services'}, m.run (s, services) = (.ok a, t, services') → P s t
  error : ∀ {s services e t services'}, m.run (s, services) = (.error e, t, services') → Q s t

/-- A step that leaves the session as one relation says, failed or not. -/
theorem Leaves.always {m : Step σ α} (h : Leaves P P m) (s : Session) (services : σ) :
    P s (m.run (s, services)).2.1 := by
  rcases hrun : m.run (s, services) with ⟨e | a, t, services'⟩
  · exact h.error hrun
  · exact h.ok hrun

section Rules
variable (h : AllowsWork c P Q) {m : Step σ α} {next : α → Step σ β}
include h

theorem leaves_of_always (hm : ∀ s services, P s (m.run (s, services)).2.1) : Leaves P Q m where
  ok {s services _ t _} hrun := by
    have hafter : _ = t := congrArg (fun r => r.2.1) hrun
    exact hafter ▸ hm s services
  error {s services _ t _} hrun := by
    have hafter : _ = t := congrArg (fun r => r.2.1) hrun
    exact h.stop (hafter ▸ hm s services)

theorem leaves_pure (a : α) : Leaves P Q (pure a : Step σ α) :=
  leaves_of_always h fun s _ => h.refl s

theorem leaves_current : Leaves P Q (current : Step σ Session) :=
  leaves_of_always h fun s _ => h.refl s

theorem leaves_change {f : Session → Session} (hf : ∀ s, P s (f s)) :
    Leaves P Q (change f : Step σ PUnit) :=
  leaves_of_always h fun s _ => hf s

theorem leaves_onSecond (e : Effect AnalysisError σ α) : Leaves P Q (e.onSecond : Step σ α) := by
  refine leaves_of_always h fun s services => ?_
  rw [Effect.run_onSecond]
  exact h.refl s

theorem leaves_build (unit : NodeId) : Leaves P Q (build c unit) :=
  leaves_of_always h fun s services => h.build s services unit

theorem leaves_split (g : BehaviorGraph) : Leaves P Q (split g : Step σ BehaviorGraph) :=
  leaves_of_always h fun s _ => h.split s g

theorem Leaves.bind (hm : Leaves P Q m) (hnext : ∀ a, Leaves P Q (next a)) :
    Leaves P Q (m >>= next) where
  ok hrun := by
    obtain ⟨a, ⟨s₁, services₁⟩, hfirst, hrest⟩ := Effect.run_bind_eq_ok.mp hrun
    exact h.trans (hm.ok hfirst) ((hnext a).ok hrest)
  error {s services _ _ _} hrun := by
    rw [Effect.run_bind] at hrun
    rcases hfirst : m.run (s, services) with ⟨e | a, s₁, services₁⟩ <;> rw [hfirst] at hrun
    · cases hrun
      exact hm.error hfirst
    · exact h.before (hm.ok hfirst) ((hnext a).error hrun)

theorem leaves_forM {step : α → Step σ PUnit} (hstep : ∀ a, Leaves P Q (step a)) (xs : List α) :
    Leaves P Q (xs.forM step) := by
  induction xs with
  | nil => exact leaves_pure h _
  | cons a rest ih => exact (hstep a).bind h fun _ => ih

end Rules

theorem run_look {s : Session} {reduced : ReducedGraph} {phase : Phase} {services services' : σ}
    {result : Except AnalysisError PUnit} {matched : Matched}
    (hmatch : (matchPatterns c.patterns reduced s.state.arena c.keep phase c.deadline).run
      ({ report := s.report }, services) = (result, matched, services')) :
    (look c reduced phase).run (s, services) =
      (result, s.afterLooking result matched, services') := by
  rw [look, Effect.run_bind, ExceptT.run_mk]
  dsimp only
  rw [hmatch]
  cases result <;> rfl

section Looking
variable {phase : Phase} (h : AllowsLooking c phase P Q)
include h

theorem leaves_look (reduced : ReducedGraph) : Leaves P Q (look c reduced phase) where
  ok {s services _ _ _} hrun := by
    rcases hmatch : (matchPatterns c.patterns reduced s.state.arena c.keep phase c.deadline).run
      ({ report := s.report }, services) with ⟨e | _, matched, services'⟩
    · rw [run_look hmatch] at hrun
      cases hrun
    · rw [run_look hmatch] at hrun
      cases hrun
      exact h.found hmatch
  error {s services _ _ _} hrun := by
    rcases hmatch : (matchPatterns c.patterns reduced s.state.arena c.keep phase c.deadline).run
      ({ report := s.report }, services) with ⟨e | _, matched, services'⟩
    · rw [run_look hmatch] at hrun
      cases hrun
      exact h.broken hmatch
    · rw [run_look hmatch] at hrun
      cases hrun

theorem leaves_detect (g : BehaviorGraph) : Leaves P Q (detect c g phase) := by
  have hwork := h.toAllowsWork
  unfold detect
  apply (leaves_change hwork fun s => h.note s s.programs (g :: s.detected)).bind hwork
  intro _
  apply (leaves_split hwork g).bind hwork
  intro g
  apply (leaves_current hwork).bind hwork
  intro _
  exact (leaves_onSecond hwork _).bind hwork fun reduced => leaves_look h reduced

theorem leaves_analyzeProgram (file : String) : Leaves P Q (analyzeProgram c file phase) := by
  have hwork := h.toAllowsWork
  unfold analyzeProgram
  apply (leaves_current hwork).bind hwork
  intro current
  split
  · exact leaves_pure hwork _
  · split
    · exact leaves_pure hwork _
    · next program _ =>
      apply (leaves_change hwork fun s => h.note s (file :: s.programs) s.detected).bind hwork
      intro _
      apply (leaves_change hwork fun s => h.mark s program.id).bind hwork
      intro _
      apply (leaves_change hwork h.scopes).bind hwork
      intro _
      exact (leaves_build hwork program.id).bind hwork fun g => leaves_detect h g

/-- Looking at the files that a script runs. -/
theorem leaves_sourceFiles (profile : ScriptProfile) :
    Leaves P Q (if profile.needsAnalysis then
        profile.sourceFiles.forM fun file => analyzeProgram c file phase
      else pure ⟨⟩) := by
  split
  · exact leaves_forM h.toAllowsWork (fun file => leaves_analyzeProgram h file) _
  · exact leaves_pure h.toAllowsWork _

end Looking

section Phases
variable (h : Allowed c P Q)
include h

theorem leaves_installPhase (profiles : ScriptProfiles) : Leaves P Q (installPhase c profiles) := by
  refine leaves_forM h.toAllowsWork (fun entry => ?_) profiles
  have hfiles := leaves_sourceFiles (h.looking .install) entry.2
  dsimp only
  split
  · exact (leaves_change h.toAllowsWork fun s => h.script s entry.1 entry.2).bind h.toAllowsWork
      fun _ => hfiles
  · exact hfiles

theorem leaves_runUnits (units : List CodeUnit) : Leaves P Q (runUnits c units) := by
  have hwork := h.toAllowsWork
  induction units with
  | nil => exact leaves_pure hwork _
  | cons unit rest ih =>
    unfold runUnits
    apply (leaves_current hwork).bind hwork
    intro current
    split
    · exact ih
    · apply (leaves_change hwork fun s => h.mark s unit.id).bind hwork
      intro _
      apply (leaves_change hwork h.scopes).bind hwork
      intro _
      split
      · exact leaves_pure hwork _
      · next program _ =>
        apply (leaves_build hwork program.id).bind hwork
        intro background
        apply (leaves_build hwork unit.id).bind hwork
        intro g
        exact (leaves_detect (h.looking .run) _).bind hwork fun _ => ih

/-- Whatever a relation that allows the steps of an analysis says, holds over all its phases. -/
theorem leaves_runPhases (manifest : Manifest) (profiles : ScriptProfiles) (phases : List Phase) :
    Leaves P Q (runPhases c manifest profiles phases) := by
  refine leaves_forM h.toAllowsWork (fun phase => ?_) _
  cases phase with
  | install => exact leaves_installPhase h profiles
  | imported => exact leaves_analyzeProgram (h.looking .imported) manifest.mainFile
  | run => exact leaves_runUnits h c.index.units

end Phases

end Session

end PackageVet

import PackageVet.Proofs.Build.Inlining
import PackageVet.Proofs.Build.Restored

/-! Builds inside one another.

While a build puts a unit in, the build of that unit is under way, and within it perhaps others. An
`Ongoing` build is under way in the build of a unit, within the units that are being put in around
it (`Underway`). A relation between states that allows what a build does (`Carried`), and that units
are entered, holds from the beginning of the outermost build to every moment of every build under
way (`Carried.moment`).

What is open in a file at such a moment is what was open in the beginning, and one frame for each
unit around (`Underway.isOpen_iff`). -/
namespace PackageVet

/-- The frame that is open while a unit is put in: its file and its name. -/
def Inlining.frame? : Inlining → Option (String × String)
  | function _ file name | localModule _ file name => some (file, name)
  | lambda unit file => some (file, unit.name)
  | program .. => none

namespace Building
variable {σ : Type} {c : BuildContext σ} {u : CodeUnit} {nested : Nested σ} {m m' : Moment σ}

/-! ### What is put in is a unit -/

/-- Whatever is put in is one of the units that are known. -/
def unitsLone (c : BuildContext σ) : Lone c where
  holds _ _ := True
  fails _ _ := True
  declared _ _ := True
  visits _ := True
  enters i := i.unit ∈ c.index.units
  service _ := trivial
  timeout _ := trivial
  time _ := trivial
  mark _ _ := trivial
  declare _ _ := trivial
  refuse _ := trivial
  found _ _ _ := trivial
  function _ _ hu _ := UnitIndex.mem_units_of_get? hu
  localModule _ hu _ := List.mem_of_find?_eq_some hu
  program _ hu _ := List.mem_of_find?_eq_some hu
  lambda _ _ _ _ hi := by
    obtain ⟨v, hv, rfl⟩ := lambdaArgument?_eq_some hi
    exact hv
  classify _ _ := trivial
  sensitiveCall _ _ _ _ _ := trivial
  registerModule _ _ _ := trivial

theorem unit_mem_of_operation {node : ProgramNode} {former : Option NodeId}
    {g g' : BehaviorGraph} {i : Inlining} {s s' : BuildState × σ}
    (h : (operation c u node former g).run s = (.ok (g', some i), s')) :
    i.unit ∈ c.index.units := by
  obtain ⟨r, t, x, y, hrun, -, hcame⟩ :=
    (Accord.visits_operation (A := (unitsLone c).accord) (u := u) (g := g) former trivial).run
      (t := s.1) (x := s.2) ⟨rfl, trivial⟩
  cases h.symm.trans hrun
  exact hcame.2 i rfl

theorem unit_mem_of_lambdaArgument? {node : ProgramNode} {i : Inlining}
    (h : lambdaArgument? c node = some i) : i.unit ∈ c.index.units := by
  obtain ⟨v, hv, rfl⟩ := lambdaArgument?_eq_some h
  exact hv

/-! ### Builds under way -/

/-- The build of a unit, from a state on, with units put in at most `depth` deep. -/
structure Ongoing (σ : Type) where
  unit : CodeUnit
  depth : Nat
  state : BuildState
  services : σ

/-- Whether a build comes by a moment. -/
def Ongoing.Passes (c : BuildContext σ) (b : Ongoing σ) (m : Moment σ) : Prop :=
  Going c (buildWithin c b.depth) b.unit (.start b.unit b.state b.services) m

/-- Whether a walk, at a moment, begins to put a unit in, and in which state: the unit to be put in
was found out. -/
inductive Enters (c : BuildContext σ) (nested : Nested σ) (u : CodeUnit) (m : Moment σ) :
    Inlining → BuildState × σ → Prop where
  /-- What is called. -/
  | called {call : NodeId} {former : Option NodeId} {node : ProgramNode} {g : BehaviorGraph}
      {i : Inlining} {x : σ} {s : BuildState × σ} :
      VisitsCall m call former node → InTime c m.services x →
      (operation c u node former (m.graph.addNode call)).run (m.state, x) =
        (.ok (g, some i), s) →
      Enters c nested u m i s
  /-- A function given as an argument. -/
  | argument {call : NodeId} {former : Option NodeId} {node : ProgramNode} {g g' : BehaviorGraph}
      {called? : Option Inlining} {i : Inlining} {x : σ} {s₁ s₂ : BuildState × σ} :
      VisitsCall m call former node → InTime c m.services x →
      (operation c u node former (m.graph.addNode call)).run (m.state, x) =
        (.ok (g, called?), s₁) →
      (putIn nested call g called?).run s₁ = (.ok g', s₂) →
      lambdaArgument? c node = some i →
      Enters c nested u m i s₂

theorem Enters.unit_mem {i : Inlining} {t : BuildState × σ} (h : Enters c nested u m i t) :
    i.unit ∈ c.index.units := by
  cases h with
  | called _ _ hop => exact unit_mem_of_operation hop
  | argument _ _ _ _ hlambda => exact unit_mem_of_lambdaArgument? hlambda

/-- A graph that is put in was built for a unit that was entered. -/
theorem Inserts.enters {call : NodeId} {into graph : BehaviorGraph} {i : Inlining}
    (h : Inserts c nested u m call into i graph) :
    ∃ t after, Enters c nested u m i t ∧
      (nested i.unit.id).run (i.enter t.1, t.2) = (.ok graph, after) := by
  cases h with
  | called hvisit htime hop hgraph => exact ⟨_, _, .called hvisit htime hop, hgraph⟩
  | argument hvisit htime hop hput hlambda hgraph =>
    exact ⟨_, _, .argument hvisit htime hop hput hlambda, hgraph⟩

/-- Whether a build is under way in the build of a unit, within the units that are being put in
around it, the innermost first. -/
inductive Underway (c : BuildContext σ) (id : NodeId) (s : BuildState) (services : σ) :
    (around : List Inlining) → Ongoing σ → Prop where
  | outermost {u : CodeUnit} : c.index.get? id = some u →
      Underway c id s services [] ⟨u, maxDepth c - 1, s, services⟩
  | within {around : List Inlining} {b : Ongoing σ} {m : Moment σ} {i : Inlining}
      {t : BuildState × σ} {v : CodeUnit} {depth : Nat} :
      Underway c id s services around b → b.Passes c m →
      Enters c (buildWithin c b.depth) b.unit m i t → b.depth = depth + 1 →
      c.index.get? i.unit.id = some v →
      Underway c id s services (i :: around) ⟨v, depth, i.enter t.1, t.2⟩

theorem Underway.get?_unit {id : NodeId} {s : BuildState} {services : σ} {around : List Inlining}
    {b : Ongoing σ} (h : Underway c id s services around b) :
    c.index.get? b.unit.id = some b.unit := by
  cases h with
  | outermost hu => exact UnitIndex.id_of_get? hu ▸ hu
  | within _ _ _ _ hv => exact UnitIndex.id_of_get? hv ▸ hv

/-! ### What holds all the way -/

/-- Whether a relation allows all that a build does to its state, given that it allows the builds of
what is put in. -/
structure Carried (c : BuildContext σ) (P : BuildState → BuildState → Prop) : Prop
    extends Shallow P where
  putIn : ∀ depth, (∀ id, Leaves P (buildWithin c depth id)) → ∀ call g i?,
    (∀ i ∈ i?, i.unit ∈ c.index.units) → Keeps P (putIn (buildWithin c depth) call g i?) g.PartOf

theorem Carried.of_stable {P : BuildState → BuildState → Prop} (hP : Stable P) :
    Carried c P where
  toShallow := hP.toShallow
  putIn _ hnested call g i? _ := keeps_putIn hP hnested call g i?

namespace Carried
variable {P : BuildState → BuildState → Prop} (hP : Carried c P)
include hP

theorem operation (node : ProgramNode) (former : Option NodeId) (g : BehaviorGraph) :
    Keeps P (operation c u node former g) fun r => ∀ i ∈ r.2, i.unit ∈ c.index.units where
  state := (keeps_operation hP.toShallow c u node g former).state
  value s services r hr i hi := by
    obtain ⟨g', i?⟩ := r
    cases hi
    exact unit_mem_of_operation (Prod.ext hr rfl)

/-- Over every build, failed or not. -/
theorem build (depth : Nat) (id : NodeId) : Leaves P (buildWithin c depth id) := by
  induction depth generalizing id with
  | zero => exact keeps_throw hP.toQuiet _
  | succ depth ih =>
    unfold buildWithin
    split
    · exact (keeps_walk_of hP.toShallow (hP.putIn depth ih) hP.operation
        (fun _ _ hi => unit_mem_of_lambdaArgument? hi) ..).mono fun _ _ => trivial
    · exact leaves_pure hP.toQuiet _

theorem going {depth : Nat} (h : Going c (buildWithin c depth) u m m') : P m.state m'.state := by
  induction h with
  | refl => exact hP.refl _
  | tail _ hgoes ih =>
    refine hP.trans ih ?_
    cases hgoes with
    | first _ _ hrun =>
      exact (keeps_firstVisit_of (u := u) hP.toShallow (hP.putIn depth (hP.build depth))
        hP.operation (fun _ _ hi => unit_mem_of_lambdaArgument? hi) ..).state_of_run hrun
    | again => exact hP.refl _
    | skip => exact hP.refl _

theorem enters {depth : Nat} {i : Inlining} {t : BuildState × σ}
    (h : Enters c (buildWithin c depth) u m i t) : P m.state t.1 := by
  cases h with
  | called _ _ hop => exact (hP.operation ..).state_of_run hop
  | argument _ _ hop hput _ =>
    have hunits := (hP.operation ..).value _ _ _ (congrArg Prod.fst hop)
    exact hP.trans ((hP.operation ..).state_of_run hop)
      ((hP.putIn depth (hP.build depth) _ _ _ hunits).state_of_run hput)

/-- From the beginning of a build to every moment of every build under way in it. -/
theorem moment (henter : ∀ (i : Inlining) s, P s (i.enter s)) {id : NodeId} {s : BuildState}
    {services : σ} {around : List Inlining} {b : Ongoing σ}
    (h : Underway c id s services around b) (hm : b.Passes c m) : P s m.state := by
  refine hP.trans ?_ (hP.going hm)
  clear hm
  induction h with
  | outermost => exact hP.refl s
  | within _ hpasses henters _ _ ih =>
    have hbefore := hP.trans (hP.going hpasses) (hP.enters henters)
    exact hP.trans ih (hP.trans hbefore (henter ..))

end Carried

/-! ### The code and the frames -/

end Building

theorem BuildState.Over.enter {s : BuildState} {arena : Arena} (h : s.Over arena) (i : Inlining) :
    (i.enter s).Over arena := by
  intro n hn
  rw [i.arena_enter]
  exact h n hn

theorem BuildState.Over.leave {s : BuildState} {arena : Arena} (h : s.Over arena) (i : Inlining) :
    (i.leave s).Over arena := by
  intro n hn
  rw [i.arena_leave]
  exact h n hn

namespace Building

theorem stable_over (arena : Arena) :
    Stable fun s s' : BuildState => s.Over arena → s'.Over arena where
  refl _ h := h
  trans hab hbc h := hbc (hab h)
  note s id _ hchange h n hn :=
    (s.arena.unmarked_modify id (fun node => (hchange node).1) n).trans (h n hn)
  refuse _ _ h := h
  declare _ _ h := h
  mark s id _ hchange h n hn :=
    (s.arena.unmarked_modify id (fun node => (hchange node).1) n).trans (h n hn)
  inline i _ _ hinner h := (hinner (h.enter i)).leave i

/-- Every build under way is over the same package. -/
theorem Underway.over {arena : Arena} {id : NodeId} {s : BuildState} {services : σ}
    {around : List Inlining} {b : Ongoing σ} (h : Underway c id s services around b)
    (hs : s.Over arena) (hm : b.Passes c m) : m.state.Over arena :=
  (Carried.of_stable (stable_over arena)).moment (fun i _ hs => hs.enter i) h hm hs

end Building

theorem Inlining.isOpen_enter (i : Inlining) (s : BuildState) (file name : String) :
    (i.enter s).isOpen file name = true ↔
      i.frame? = some (file, name) ∨ s.isOpen file name = true := by
  have hopen (other frame : String) (unit : NodeId) :
      ((s.openFrame other frame).markAnalyzed unit).isOpen file name = true ↔
        some (other, frame) = some (file, name) ∨ s.isOpen file name = true := by
    rw [BuildState.isOpen, BuildState.scope_markAnalyzed, BuildState.openFrame,
      BuildState.scope_setScope]
    by_cases hfile : file = other
    · subst hfile
      simp [Scope.isOpen_push, BuildState.isOpen]
    · simp [hfile, Ne.symm hfile, BuildState.isOpen]
  cases i with
  | function unit other frame => exact hopen other frame unit.id
  | localModule unit other frame => exact hopen other frame unit.id
  | lambda unit other => exact hopen other unit.name unit.id
  | program unit other =>
    have hsame :
        ((s.openFile other).markAnalyzed unit.id).isOpen file name = s.isOpen file name := by
      rw [BuildState.isOpen, BuildState.scope_markAnalyzed]
      rfl
    simp [frame?, enter, hsame]

/-- With fresh names the root alone is open. -/
theorem BuildState.isOpen_initializeScopes (s : BuildState) (index : UnitIndex)
    (sources : PackageSources) (file name : String) :
    (s.initializeScopes index sources).isOpen file name = true ↔ name = "program" := by
  have hnames : ∀ file, ((s.initializeScopes index sources).scope file).names = ["program"] := by
    refine List.foldlRecOn
      (motive := fun (t : BuildState) => ∀ file, (t.scope file).names = ["program"]) _ _ ?_ ?_
    · intro file
      have hempty := s.scope_forgotten file
      rw [hempty]
      rfl
    · intro t ht u _ file
      rw [declare, scope_setScope]
      split
      · rw [Scope.names_declare, ht]
      · exact ht file
  rw [isOpen, Scope.isOpen_iff, hnames, List.mem_singleton]

namespace Building
variable {σ : Type} {c : BuildContext σ} {m : Moment σ}

/-- The frames that are open in a file are those of the beginning and those of the units around. -/
theorem Underway.isOpen_iff {id : NodeId} {s : BuildState} {services : σ}
    {around : List Inlining} {b : Ongoing σ} (h : Underway c id s services around b)
    (hm : b.Passes c m) (file name : String) :
    m.state.isOpen file name = true ↔
      (∃ i ∈ around, i.frame? = some (file, name)) ∨ s.isOpen file name = true := by
  have hrestored : Carried c BuildState.Restored := .of_stable BuildState.stable_restored
  rw [(hrestored.going hm).isOpen]
  clear hm
  dsimp only [Moment.start]
  induction h with
  | outermost => simp
  | within _ hpasses henters _ _ ih =>
    rw [Inlining.isOpen_enter, (hrestored.enters henters).isOpen, (hrestored.going hpasses).isOpen]
    refine (or_congr_right ih).trans ?_
    simp only [List.mem_cons, exists_eq_or_imp, or_assoc]

end Building

end PackageVet

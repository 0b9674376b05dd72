import PackageVet.Proofs.Build.Lone
import PackageVet.Proofs.Build.Names
import PackageVet.Proofs.Build.Sample
import PackageVet.Reduced.Split

/-! Putting units into one another comes to an end.

A function is not put in while a frame of its name is open in its file, nor the top level of a file
while the file is being required. Between two of these come only functions given as arguments, and
they stand inside one another in the code. So the number of units that can still be opened
(`BuildState.closed`), and under it the number of functions that can still be given
(`Building.below`), go down with every unit put in (`Building.needed`).

The limits of a build are therefore never felt: with more depth, and with more steps for every walk,
a build comes to the same (`build_terminates`). -/
namespace PackageVet

/-! ### What is open -/

namespace Scope
variable (s : Scope)

/-- The names of the open frames, the innermost first. -/
def names : List String := s.frames.map Frame.name

theorem isOpen_iff (name : String) : s.isOpen name = true ↔ name ∈ s.names := by
  simp only [isOpen, names, List.any_eq_true, List.mem_map, decide_eq_true_eq]

theorem names_declare (i : Identifier) : (s.declare i).names = s.names := by
  obtain ⟨inner, root⟩ := s
  cases inner <;> rfl

theorem names_push (name : String) : (s.push name).names = name :: s.names := rfl

variable {s} in
theorem names_pop {t : Scope} {name : String} (h : t.names = name :: s.names) :
    t.pop.names = s.names := by
  obtain ⟨inner, root⟩ := t
  cases inner with
  | nil =>
    have hnil : s.frames = [] := by simpa [names, frames] using (List.cons.inj h).2.symm
    simp [frames] at hnil
  | cons frame rest => exact (List.cons.inj h).2

end Scope

/-- Whether a unit has a name in a file. -/
def UnitIndex.Declares (index : UnitIndex) (file name : String) : Prop :=
  ∃ u ∈ index.units, u.file = file ∧ u.name = name

namespace BuildState
variable {index : UnitIndex} {s t : BuildState}

/-- Whether every function that is known in a file is a unit of that file. -/
def Sound (index : UnitIndex) (s : BuildState) : Prop :=
  s.Knows fun file i => i.declaration.isSome → index.Declares file i.name

theorem Sound.lookup? {file name : String} {line : Nat} {i : Identifier} (h : s.Sound index)
    (hfound : s.lookup? file name line = some i) (hi : i.declaration.isSome) :
    index.Declares file name := by
  obtain ⟨hdeclared, rfl⟩ := (h file).lookup? hfound
  exact hdeclared hi

/-- Whether two states have the same code, and the same files and frames are open. -/
structure SameFrames (s t : BuildState) : Prop extends SameCode s t where
  names : ∀ file, (t.scope file).names = (s.scope file).names

theorem SameFrames.refl (s : BuildState) : s.SameFrames s := ⟨stable_sameCode.refl s, fun _ => rfl⟩

theorem SameFrames.isOpen (h : s.SameFrames t) (file name : String) :
    t.isOpen file name = s.isOpen file name := by
  rw [Bool.eq_iff_iff, BuildState.isOpen, BuildState.isOpen, Scope.isOpen_iff, Scope.isOpen_iff,
    h.names]

theorem SameFrames.updateNode {id : NodeId} {change : ProgramNode → ProgramNode}
    (h : s.SameFrames t) (hchange : ∀ n, (change n).unmarked = n.unmarked) :
    s.SameFrames (t.updateNode id change) where
  code := (funext (t.arena.unmarked_modify id hchange)).trans h.code
  requiring := h.requiring
  names := h.names

theorem SameFrames.declare (h : s.SameFrames t) (i : Identifier) : s.SameFrames (t.declare i) where
  code := h.code
  requiring := h.requiring
  names file := by
    rw [BuildState.declare, scope_setScope, ← h.names]
    split
    · next heq => rw [Scope.names_declare, heq]
    · rfl

theorem SameFrames.push (h : s.SameFrames t) (file name : String) (unit : NodeId) :
    ((s.openFrame file name).markAnalyzed unit).SameFrames
      ((t.openFrame file name).markAnalyzed unit) where
  code := by
    rw [arena_markAnalyzed, arena_markAnalyzed]
    exact h.code
  requiring := by
    rw [requiring_markAnalyzed, requiring_markAnalyzed]
    exact h.requiring
  names other := by
    simp only [scope_markAnalyzed, openFrame, scope_setScope]
    split
    · rw [Scope.names_push, Scope.names_push, h.names]
    · exact h.names other

theorem SameFrames.enter (h : s.SameFrames t) (i : Inlining) :
    (i.enter s).SameFrames (i.enter t) := by
  cases i with
  | function unit file name => exact h.push file name unit.id
  | localModule unit file name => exact h.push file name unit.id
  | lambda unit file => exact h.push file unit.name unit.id
  | program unit file =>
    refine ⟨⟨?_, ?_⟩, fun other => ?_⟩
    · rw [Inlining.arena_enter, Inlining.arena_enter, h.code]
    · simp [Inlining.enter, openFile, h.requiring]
    · simp only [Inlining.enter, scope_markAnalyzed]
      exact h.names other

theorem SameFrames.pop {file name : String} {unit : NodeId}
    (h : ((s.openFrame file name).markAnalyzed unit).SameFrames t) (other : String) :
    ((t.closeFrame file).scope other).names = (s.scope other).names := by
  have hnames := h.names other
  rw [scope_markAnalyzed, openFrame, scope_setScope] at hnames
  rw [closeFrame, scope_setScope]
  split
  · next heq =>
    subst heq
    rw [if_pos rfl, Scope.names_push] at hnames
    exact Scope.names_pop hnames
  · next hne =>
    rw [if_neg hne] at hnames
    exact hnames

/-- What was opened for a unit is closed after it. -/
theorem SameFrames.leave (i : Inlining) (h : (i.enter s).SameFrames t) :
    s.SameFrames (i.leave t) where
  toSameCode := stable_sameCode.inline i s t h.toSameCode
  names := by
    cases i with
    | function unit file name => exact h.pop
    | localModule unit file name => exact h.pop
    | lambda unit file => exact h.pop
    | program unit file =>
      intro other
      have hnames := h.names other
      rw [Inlining.enter, scope_markAnalyzed] at hnames
      exact hnames

/-! ### What can still be opened -/

/-- How often a unit's name is not open in its file, and its file is not being required. -/
def closed (index : UnitIndex) (s : BuildState) : Nat :=
  (index.units.countP fun u => !s.isOpen u.file u.name) +
    index.units.countP fun u => !s.requiring.contains u.file

end BuildState

/-- A stronger condition that fails once more is met less often. -/
theorem countP_lt_countP {α : Type} {p q : α → Bool} {a : α} {l : List α}
    (h : ∀ b ∈ l, p b = true → q b = true) (ha : a ∈ l) (hp : p a = false) (hq : q a = true) :
    l.countP p < l.countP q := by
  obtain ⟨before, after, rfl⟩ := List.append_of_mem ha
  have hbefore : before.countP p ≤ before.countP q :=
    List.countP_mono_left fun b hb => h b (List.mem_append_left _ hb)
  have hafter : after.countP p ≤ after.countP q :=
    List.countP_mono_left fun b hb => h b (List.mem_append_right _ (List.mem_cons_of_mem _ hb))
  rw [List.countP_append, List.countP_append, List.countP_cons_of_neg (by simp [hp]),
    List.countP_cons_of_pos hq]
  omega

namespace BuildState
variable {index : UnitIndex} {s : BuildState}

theorem closed_le (index : UnitIndex) (s : BuildState) :
    s.closed index ≤ index.units.length + index.units.length :=
  Nat.add_le_add List.countP_le_length List.countP_le_length

theorem isOpen_openFrame (s : BuildState) (file name : String) (unit : NodeId)
    (other otherName : String) :
    ((s.openFrame file name).markAnalyzed unit).isOpen other otherName =
      ((other = file ∧ name = otherName) || s.isOpen other otherName) := by
  rw [isOpen, scope_markAnalyzed, openFrame, scope_setScope, isOpen]
  split
  · next heq => simp [heq, Scope.isOpen_push]
  · next hne => simp [hne]

theorem closed_openFrame (s : BuildState) (file name : String) (unit : NodeId) :
    ((s.openFrame file name).markAnalyzed unit).closed index =
      (index.units.countP fun u =>
        !((u.file = file ∧ name = u.name) || s.isOpen u.file u.name)) +
      index.units.countP fun u => !s.requiring.contains u.file := by
  simp only [closed, isOpen_openFrame, requiring_markAnalyzed]
  rfl

/-- A frame for a name that was not open. -/
theorem closed_openFrame_lt {file name : String} {unit : NodeId} (hdeclared : index.Declares file name)
    (hopen : s.isOpen file name = false) :
    ((s.openFrame file name).markAnalyzed unit).closed index < s.closed index := by
  obtain ⟨u, hu, rfl, rfl⟩ := hdeclared
  rw [closed_openFrame, closed]
  refine Nat.add_lt_add_right (countP_lt_countP ?_ hu (by simp) (by simp [hopen])) _
  intro v _ hv
  simp only [Bool.not_eq_true', Bool.or_eq_false_iff] at hv
  simp [hv.2]

/-- A file that was not being required. -/
theorem closed_openFile_lt {file : String} {unit : NodeId} {u : CodeUnit} (hu : u ∈ index.units)
    (hfile : u.file = file) (hopen : s.requiring.contains file = false) :
    ((s.openFile file).markAnalyzed unit).closed index < s.closed index := by
  subst hfile
  have hscopes : ∀ other name, ((s.openFile u.file).markAnalyzed unit).isOpen other name =
      s.isOpen other name := fun other name => by
    rw [isOpen, scope_markAnalyzed]
    rfl
  simp only [closed, hscopes, requiring_markAnalyzed]
  refine Nat.add_lt_add_left (countP_lt_countP ?_ hu (by simp [openFile]) (by rw [hopen]; rfl)) _
  intro v _ hv
  simp only [openFile, List.contains_cons, Bool.not_eq_true', Bool.or_eq_false_iff] at hv
  rw [hv.2]
  rfl

theorem closed_lambda_le (s : BuildState) (unit : CodeUnit) (file : String) :
    ((Inlining.lambda unit file).enter s).closed index ≤ s.closed index := by
  rw [Inlining.enter, closed_openFrame, closed]
  refine Nat.add_le_add_right (List.countP_mono_left fun v _ hv => ?_) _
  simp only [Bool.not_eq_true', Bool.or_eq_false_iff] at hv
  simp [hv.2]

end BuildState

namespace Building
variable {σ : Type} {c : BuildContext σ}

/-! ### Functions given as arguments -/

/-- The units that are given as last arguments to the calls of a unit. -/
def lambdasOf (c : BuildContext σ) (arena : Arena) (u : CodeUnit) : List NodeId :=
  u.nodes.filterMap fun n => do
    let node ← arena.get? n
    if node.kind = "CALL" then (lambdaArgument? c node).map fun i => i.unit.id else none

/-- Whether a call of a unit is given another unit as its last argument. -/
def GivesLambda (c : BuildContext σ) (arena : Arena) (a b : NodeId) : Prop :=
  ∃ u, c.index.get? a = some u ∧ b ∈ lambdasOf c arena u

theorem lambdaArgument?_eq_some {node : ProgramNode} {i : Inlining}
    (h : lambdaArgument? c node = some i) : ∃ u ∈ c.index.units, i = .lambda u node.file := by
  simp only [lambdaArgument?, Option.bind_eq_bind, Option.bind_eq_some_iff] at h
  obtain ⟨last, -, fullName, -, h⟩ := h
  split at h
  · obtain ⟨u, hu, hi⟩ := Option.bind_eq_some_iff.mp h
    cases hi
    exact ⟨u, List.mem_of_find?_eq_some hu, rfl⟩
  · cases h

theorem lambdaArgument?_of_unmarked {node node' : ProgramNode}
    (h : node.unmarked = node'.unmarked) : lambdaArgument? c node = lambdaArgument? c node' := by
  have hid : node.id = node'.id := show node.unmarked.id = node'.unmarked.id by rw [h]
  have hfile : node.file = node'.file := show node.unmarked.file = node'.unmarked.file by rw [h]
  unfold lambdaArgument?
  rw [hid, hfile]

open Classical in
/-- How many units are given, over any number of calls, from a unit on. -/
noncomputable def below (c : BuildContext σ) (arena : Arena) (id : NodeId) : Nat :=
  c.index.units.countP fun u => Relation.TransGen (GivesLambda c arena) id u.id

theorem below_lt {arena : Arena} {a : NodeId} {u : CodeUnit} (hu : u ∈ c.index.units)
    (hgives : GivesLambda c arena a u.id)
    (hcycle : ¬ Relation.TransGen (GivesLambda c arena) u.id u.id) :
    below c arena u.id < below c arena a := by
  refine countP_lt_countP (fun v _ hv => ?_) hu (by simpa using hcycle) ?_
  · simp only [decide_eq_true_eq] at hv ⊢
    exact .head hgives hv
  · simpa using Relation.TransGen.single hgives

/-! ### The measure -/

/-- How deep units are put into one another from a unit on. -/
noncomputable def needed (c : BuildContext σ) (s : BuildState) (id : NodeId) : Nat :=
  s.closed c.index * (c.index.units.length + 1) + below c s.arena id + 1

theorem needed_le_maxDepth (c : BuildContext σ) (s : BuildState) (id : NodeId) :
    needed c s id ≤ maxDepth c := by
  have hclosed := s.closed_le c.index
  have hbelow : below c s.arena id ≤ c.index.units.length := List.countP_le_length
  unfold needed maxDepth
  generalize c.index.units.length = n at *
  have hsquare : n ≤ n * n := Nat.le_mul_self n
  have hmul : s.closed c.index * (n + 1) ≤ (n * n + n) * (n + 1) :=
    Nat.mul_le_mul_right _ (by omega)
  have hsplit : (n * n + n + 1) * (n + 1) = (n * n + n) * (n + 1) + (n + 1) := by
    rw [Nat.add_mul _ 1, Nat.one_mul]
  show _ ≤ (n * n + n + 1) * (n + 1) + 1
  omega

/-- Less is needed once one thing more is open. -/
theorem needed_lt_of_closed {s s' : BuildState} {id id' : NodeId}
    (h : s'.closed c.index < s.closed c.index) : needed c s' id' < needed c s id := by
  have hbelow : below c s'.arena id' ≤ c.index.units.length := List.countP_le_length
  have hmul := Nat.mul_le_mul_right (c.index.units.length + 1) (Nat.succ_le_of_lt h)
  rw [Nat.succ_mul] at hmul
  unfold needed
  omega

theorem needed_lt_of_below {s s' : BuildState} {id id' : NodeId}
    (hclosed : s'.closed c.index ≤ s.closed c.index) (h : below c s'.arena id' < below c s.arena id) :
    needed c s' id' < needed c s id := by
  have hmul := Nat.mul_le_mul_right (c.index.units.length + 1) hclosed
  unfold needed
  omega

/-! ### Limits -/

/-- Steps beyond those for the stack and for all edges that a walk has not come to are not
used. -/
theorem walk_of_le {nested : Nested σ} {u : CodeUnit} {steps steps' : Nat} {visited : List NodeId}
    {stack : List (NodeId × Option NodeId)} (g : BehaviorGraph)
    (h : stack.length + unvisitedEdges u visited ≤ steps) (hle : steps ≤ steps') :
    walk c nested u steps' visited stack g = walk c nested u steps visited stack g := by
  induction steps generalizing steps' visited stack g with
  | zero =>
    have hnil : stack = [] := List.length_eq_zero_iff.mp (by omega)
    rw [hnil]
    cases steps' <;> rfl
  | succ steps ih =>
    obtain ⟨steps', rfl⟩ : ∃ n, steps' = n + 1 := ⟨steps' - 1, by omega⟩
    match stack with
    | [] => rfl
    | (current, former) :: stack =>
      simp only [List.length_cons] at h
      unfold walk
      refine bind_congr fun _ => ?_
      split
      · split
        · exact bind_congr fun s => ih _ (by omega) (by omega)
        · exact ih _ (by omega) (by omega)
      · next hv =>
        refine bind_congr fun g₁ => bind_congr fun s => ih _ ?_ (by omega)
        have hcount := unvisitedEdges_cons (u := u) hv
        have hlength := (orderedSuccessors_perm s.arena u current).length_eq
        simp only [List.length_append, List.length_map]
        omega

/-- The graph of a unit, with units put in at most `depth` deep and with some more steps for every
walk. -/
def buildUpTo (c : BuildContext σ) (spare : Nat) : Nat → NodeId → Building σ BehaviorGraph
  | 0, _ => throw .nesting
  | depth + 1, id =>
    match c.index.get? id with
    | some u =>
      walk c (buildUpTo c spare depth) u (u.edges.size + 1 + spare) [] [(u.id, none)]
        { entrance := id }
    | none => pure { entrance := id }

theorem walk_spare {nested : Nested σ} {u : CodeUnit} (spare : Nat) (g : BehaviorGraph) :
    walk c nested u (u.edges.size + 1 + spare) [] [(u.id, none)] g =
      walk c nested u (u.edges.size + 1) [] [(u.id, none)] g :=
  walk_of_le g (enough_steps u) (by omega)

/-! ### Every unit put in needs less -/

section Package
variable {code : CodeGraph} {arena : Arena} {s t : BuildState} {u : CodeUnit}

/-- What is given as an argument, as far as a state knows it. -/
theorem givesLambda_of_node {n : NodeId} {node : ProgramNode} {i : Inlining}
    (hu : c.index.get? u.id = some u) (hn : n ∈ u.nodes)
    (hcode : t.arena.unmarked = s.arena.unmarked) (hnode : t.arena.get? n = some node)
    (hkind : node.kind = "CALL") (hi : lambdaArgument? c node = some i) :
    GivesLambda c s.arena u.id i.unit.id := by
  have hsame := congrFun hcode n
  rw [Arena.unmarked, Arena.unmarked, hnode] at hsame
  obtain ⟨node', hnode', hunmarked⟩ := Option.map_eq_some_iff.mp hsame.symm
  have hkind' : node'.kind = "CALL" :=
    (show node'.unmarked.kind = node.unmarked.kind by rw [hunmarked]).trans hkind
  refine ⟨u, hu, List.mem_filterMap.mpr ⟨n, hn, ?_⟩⟩
  rw [hnode']
  simp only [Option.bind_eq_bind, Option.bind_some, hkind', if_true]
  rw [lambdaArgument?_of_unmarked hunmarked, hi]
  rfl

/-- What the build of a unit keeps, where no unit is given to itself: everything that is put in
needs less. -/
def nestingLone (s : BuildState) (hu : c.index.get? u.id = some u)
    (hcycle : ∀ id, ¬ Relation.TransGen (GivesLambda c s.arena) id id) : Lone c where
  holds t _ := s.SameFrames t ∧ t.Sound c.index
  fails e _ := e ≠ .nesting ∧ e ≠ .unfinished
  declared := c.index.Declares
  visits n := n ∈ u.nodes
  enters i := needed c (i.enter s) i.unit.id < needed c s u.id
  service _ := by simp
  timeout _ := by simp
  time ht := ht
  mark h ht := ⟨ht.1.updateNode h, ht.2⟩
  declare h ht := ⟨ht.1.declare _, BuildState.Knows.declare ht.2 (by simp [h])⟩
  refuse ht := ⟨⟨⟨ht.1.code, ht.1.requiring⟩, ht.1.names⟩, ht.2⟩
  found ht hfound hi := ht.2.lookup? hfound hi
  function ht hdeclared _ hopen := by
    rw [ht.1.isOpen] at hopen
    exact needed_lt_of_closed (BuildState.closed_openFrame_lt hdeclared hopen)
  localModule {_ _ file name v} ht hv hopen := by
    rw [ht.1.isOpen] at hopen
    have hfound := List.find?_some hv
    simp only [Bool.and_eq_true, decide_eq_true_eq] at hfound
    have hdeclared : c.index.Declares file name :=
      ⟨v, List.mem_of_find?_eq_some hv, hfound.2, hfound.1⟩
    exact needed_lt_of_closed (BuildState.closed_openFrame_lt hdeclared hopen)
  program ht hv hopen := by
    rw [ht.1.requiring] at hopen
    have hfound := List.find?_some hv
    simp only [Bool.and_eq_true, decide_eq_true_eq] at hfound
    exact needed_lt_of_closed
      (BuildState.closed_openFile_lt (List.mem_of_find?_eq_some hv) hfound.2 hopen)
  lambda ht hn hnode hkind hi := by
    have hgives := givesLambda_of_node hu hn ht.1.code hnode hkind hi
    obtain ⟨v, hv, rfl⟩ := lambdaArgument?_eq_some hi
    refine needed_lt_of_below (s.closed_lambda_le v _) ?_
    rw [Inlining.arena_enter]
    exact below_lt hv hgives (hcycle _)
  classify _ ht := ht
  sensitiveCall _ _ _ _ ht := ht
  registerModule _ _ ht := ht

/-- Builds with enough depth are in step, whatever their limits. -/
theorem instep_buildUpTo (hloaded : Loaded code c.index.units arena) (spare : Nat)
    {n d₁ d₂ : Nat} {id : NodeId} (hn : needed c s id ≤ n) (h₁ : n ≤ d₁) (h₂ : n ≤ d₂)
    (hcycle : ∀ id, ¬ Relation.TransGen (GivesLambda c s.arena) id id) :
    InStep (fun t x y => x = y ∧ s.SameFrames t ∧ t.Sound c.index)
      (fun e x y => x = y ∧ e ≠ .nesting ∧ e ≠ .unfinished) (buildUpTo c spare d₁ id)
      (buildWithin c d₂ id)
      fun _ t x y => x = y ∧ s.SameFrames t ∧ t.Sound c.index := by
  induction n generalizing s d₁ d₂ id with
  | zero => exact absurd hn (by simp [needed])
  | succ n ih =>
    obtain ⟨d₁, rfl⟩ : ∃ d, d₁ = d + 1 := ⟨d₁ - 1, by omega⟩
    obtain ⟨d₂, rfl⟩ : ∃ d, d₂ = d + 1 := ⟨d₂ - 1, by omega⟩
    unfold buildUpTo buildWithin
    cases hu : c.index.get? id with
    | none => exact .pure fun _ _ _ ht => ht
    | some u =>
      cases UnitIndex.id_of_get? hu
      dsimp only
      rw [walk_spare]
      have hmem := UnitIndex.mem_units_of_get? hu
      refine Accord.instep_walk (A := (nestingLone s hu hcycle).accord) (fun i hi => ?_)
        (fun a b _ hb => ?_) (enough_steps u) (fun entry hentry => ?_) _
      · -- what is put in needs less than the unit itself
        refine Accord.instep_enclosed i ?_
          (ih (s := i.enter s) ?_ (by omega) (by omega) ?_) ?_
        · exact fun h => ⟨h.1, h.2.1.enter i, BuildState.Knows.enter h.2.2 i⟩
        · exact Nat.le_of_lt_succ (Nat.lt_of_lt_of_le hi hn)
        · rw [Inlining.arena_enter]
          exact hcycle
        · exact fun h => ⟨h.1, h.2.1.leave i, BuildState.Knows.leave h.2.2 i⟩
      · exact (hloaded.ends hmem (Edges.mem_successors.mp hb)).2
      · cases List.mem_singleton.mp hentry
        exact hloaded.id_mem hmem

end Package
end Building

/-! ### States of an analysis -/

/-- Whether an analysis of a package can come to a state: between two builds or within one. What the
services are, and which graphs are split, does not matter. -/
inductive BuildState.Reached (index : UnitIndex) (arena : Arena) : BuildState → Prop where
  | loaded : Reached index arena { arena }
  | names {s : BuildState} (sources : PackageSources) :
      Reached index arena s → Reached index arena (s.initializeScopes index sources)
  | marked {s : BuildState} (unit : NodeId) :
      Reached index arena s → Reached index arena (s.markAnalyzed unit)
  | split {s : BuildState} (graph : BehaviorGraph) (code : CodeGraph) :
      Reached index arena s → Reached index arena
        { s with arena := (Splitting.splitAll { graph, arena := s.arena, code }).arena }
  | built {σ : Type} {c : BuildContext σ} {s s' : BuildState} {services services' : σ} {id : NodeId}
      {g : BehaviorGraph} : c.index = index → Reached index arena s →
      (Building.build c id).run (s, services) = (.ok g, s', services') → Reached index arena s'
  | within {σ : Type} {c : BuildContext σ} {u : CodeUnit} {s : BuildState} {services : σ}
      {m : Building.Moment σ} : c.index = index → Reached index arena s →
      Building.Passes c u s services m → Reached index arena m.state
  | entered {s : BuildState} (i : Inlining) :
      Reached index arena s → Reached index arena (i.enter s)

namespace Building
variable {σ : Type} {c : BuildContext σ} {u : CodeUnit} {s : BuildState}

/-- A build declares no functions. -/
def soundLone (c : BuildContext σ) : Lone c where
  holds s _ := s.Sound c.index
  fails _ _ := True
  declared _ _ := True
  visits _ := True
  enters _ := True
  service _ := trivial
  timeout _ := trivial
  time hs := hs
  mark _ hs := hs
  declare h hs := BuildState.Knows.declare hs (by simp [h])
  refuse hs := hs
  found _ _ _ := trivial
  function _ _ _ _ := trivial
  localModule _ _ _ := trivial
  program _ _ _ := trivial
  lambda _ _ _ _ _ := trivial
  classify _ hs := hs
  sensitiveCall _ _ _ _ hs := hs
  registerModule _ _ hs := hs

theorem free_soundLone (c : BuildContext σ) : (soundLone c).accord.Free where
  visits _ := trivial
  enter i hs := ⟨hs.1, BuildState.Knows.enter hs.2 i⟩
  leave i hs := ⟨hs.1, BuildState.Knows.leave hs.2 i⟩
  nesting hs := ⟨hs.1, trivial⟩

theorem sound_of_build {s' : BuildState} {services services' : σ} {id : NodeId} {g : BehaviorGraph}
    (hs : s.Sound c.index) (h : (build c id).run (s, services) = (.ok g, s', services')) :
    s'.Sound c.index := by
  obtain ⟨r, t, x, y, hx, -, hcame⟩ :=
    ((free_soundLone c).instep_buildWithin (maxDepth c) id).run (x := services) ⟨rfl, hs⟩
  cases h.symm.trans hx
  exact hcame.2

theorem sound_of_goes {m m' : Moment σ} (hs : m.state.Sound c.index)
    (h : Goes c (inner c) u m m') : m'.state.Sound c.index := by
  cases h with
  | first _ _ hrun =>
    obtain ⟨r, t, x, y, hx, -, hcame⟩ := (Accord.instep_firstVisit (u := u)
      ((free_soundLone c).enclosed (maxDepth c - 1)) trivial _ _).run ⟨rfl, hs⟩
    cases hrun.symm.trans hx
    exact hcame.2
  | again => exact hs
  | skip => exact hs

theorem sound_of_passes {services : σ} {m : Moment σ} (hs : s.Sound c.index)
    (h : Passes c u s services m) : m.state.Sound c.index := by
  induction h with
  | refl => exact hs
  | tail _ hgoes ih => exact sound_of_goes ih hgoes

end Building

theorem BuildState.Reached.sound {index : UnitIndex} {arena : Arena} {s : BuildState}
    (h : s.Reached index arena) : s.Sound index := by
  induction h with
  | loaded => exact knows_loaded arena
  | names sources _ _ => exact knows_initializeScopes _ sources fun u hu _ => ⟨u, hu, rfl, rfl⟩
  | marked unit _ ih => exact Knows.markAnalyzed ih unit
  | split graph code _ ih => exact ih
  | built hindex _ hrun ih =>
    subst hindex
    exact Building.sound_of_build ih hrun
  | within hindex _ hpasses ih =>
    subst hindex
    exact Building.sound_of_passes ih hpasses
  | entered i _ ih => exact Knows.enter ih i

namespace Building
variable {σ : Type} {c : BuildContext σ}

/-- A build of a package in which no unit is given to itself as an argument, over any number of
calls, ends before its limits are felt: neither is a unit nested too deep, nor is a walk left
unfinished, and with higher limits the build comes to the same. Where it succeeds, its walk has gone
on until nothing was left on the stack. -/
theorem build_terminates {code : CodeGraph} {arena : Arena}
    (hloaded : Loaded code c.index.units arena) {s : BuildState} (hs : s.Reached c.index arena)
    (hcycle : ∀ id, ¬ Relation.TransGen (GivesLambda c s.arena) id id) (id : NodeId)
    (services : σ) :
    ((build c id).run (s, services)).1 ≠ .error .nesting ∧
    ((build c id).run (s, services)).1 ≠ .error .unfinished ∧
    (∀ spare depth, maxDepth c ≤ depth →
      (buildUpTo c spare depth id).run (s, services) = (build c id).run (s, services)) ∧
    ∀ u g s' services', c.index.get? id = some u →
      (build c id).run (s, services) = (.ok g, s', services') →
      ∃ visited, Passes c u s services ⟨visited, [], g, s', services'⟩ := by
  have hstep : ∀ spare depth, maxDepth c ≤ depth → ∃ r t x,
      (buildUpTo c spare depth id).run (s, services) = (r, t, x) ∧
      (build c id).run (s, services) = (r, t, x) ∧ r ≠ .error .nesting ∧ r ≠ .error .unfinished := by
    intro spare depth hdepth
    obtain ⟨r, t, x, y, hx, hy, hcame⟩ := (instep_buildUpTo hloaded spare
      (needed_le_maxDepth c s id) hdepth (Nat.le_refl _) hcycle).run (x := services)
      ⟨rfl, .refl s, hs.sound⟩
    cases r with
    | ok g =>
      obtain ⟨rfl, -⟩ := hcame
      exact ⟨_, t, x, hx, hy, by simp, by simp⟩
    | error e =>
      obtain ⟨rfl, hnesting, hunfinished⟩ := hcame
      exact ⟨_, t, x, hx, hy, by simpa using hnesting, by simpa using hunfinished⟩
  obtain ⟨r, t, x, -, hbuild, hnesting, hunfinished⟩ := hstep 0 (maxDepth c) (Nat.le_refl _)
  refine ⟨by rwa [hbuild], by rwa [hbuild], fun spare depth hdepth => ?_,
    fun u g s' services' hu hrun => ?_⟩
  · obtain ⟨r, t, x, hupTo, hbuild, -⟩ := hstep spare depth hdepth
    rw [hupTo, hbuild]
  · cases UnitIndex.id_of_get? hu
    exact passes_of_build hu hrun

/-- Two files that require each other, two functions that call each other, and a function given as an
argument that calls one of them. -/
def tangled : Sample where
  code :=
    let g := CodeGraph.sketch
      [(1, "METHOD", [("NAME", ":program"), ("FILENAME", "index.js")]),
        (2, "CALL", [("NAME", "require"), ("CODE", "require('./util')")]),
        (3, "CALL", [("NAME", "each"), ("CODE", "each(() => ping())")]),
        (4, "METHOD_REF", [("CODE", "<lambda>0"), ("METHOD_FULL_NAME", "index.js::<lambda>0"),
          ("ARGUMENT_INDEX", "1")]),
        (10, "METHOD", [("NAME", "<lambda>0"), ("FULL_NAME", "index.js::<lambda>0"),
          ("FILENAME", "index.js")]),
        (11, "CALL", [("NAME", "ping"), ("CODE", "ping()")]),
        (20, "METHOD", [("NAME", "ping"), ("FILENAME", "index.js")]),
        (21, "CALL", [("NAME", "pong"), ("CODE", "pong()")]),
        (30, "METHOD", [("NAME", "pong"), ("FILENAME", "index.js")]),
        (31, "CALL", [("NAME", "ping"), ("CODE", "ping()")]),
        (40, "METHOD", [("NAME", ":program"), ("FILENAME", "util.js")]),
        (41, "CALL", [("NAME", "require"), ("CODE", "require('./index')")])] []
    g.insertEdge 3 4 .argument
  exports :=
    ["digraph \x7b 1 -> 2 -> 3 [label=CFG] \x7d", "digraph \x7b 10 -> 11 [label=CFG] \x7d",
      "digraph \x7b 20 -> 21 [label=CFG] \x7d", "digraph \x7b 30 -> 31 [label=CFG] \x7d",
      "digraph \x7b 40 -> 41 [label=CFG] \x7d"]

theorem computed_tangled :
    tangled.hasUnit 1 = true ∧
    10 ∈ lambdasOf tangled.context tangled.state.arena (tangled.unit 1) ∧
    (tangled.context.index.units.all fun u =>
      (lambdasOf tangled.context tangled.state.arena u).all fun b => u.id < b) = true := by
  decide +kernel

/-- Where what is given always has a greater id, nothing is given to itself. -/
theorem not_transGen_givesLambda {arena : Arena}
    (h : (c.index.units.all fun u => (lambdasOf c arena u).all fun b => u.id < b) = true)
    (id : NodeId) : ¬ Relation.TransGen (GivesLambda c arena) id id := by
  have hlt : ∀ a b, GivesLambda c arena a b → a < b := by
    rintro a b ⟨u, hu, hb⟩
    cases UnitIndex.id_of_get? hu
    have hall := List.all_eq_true.mp h u (UnitIndex.mem_units_of_get? hu)
    simpa using List.all_eq_true.mp hall b hb
  have htrans : ∀ b, Relation.TransGen (GivesLambda c arena) id b → id < b := by
    intro b hb
    induction hb with
    | single hgives => exact hlt _ _ hgives
    | tail _ hgives ih => exact Nat.lt_trans ih (hlt _ _ hgives)
  exact fun hid => Nat.lt_irrefl id (htrans id hid)

theorem build_terminates_tangled :
    Loaded tangled.code tangled.context.index.units tangled.read.2 ∧
    tangled.state.Reached tangled.context.index tangled.read.2 ∧
    GivesLambda tangled.context tangled.state.arena 1 10 ∧
    ((build tangled.context 1).run (tangled.state, ())).1 ≠ .error .nesting ∧
    ((build tangled.context 1).run (tangled.state, ())).1 ≠ .error .unfinished ∧
    ∀ spare depth, maxDepth tangled.context ≤ depth →
      (buildUpTo tangled.context spare depth 1).run (tangled.state, ()) =
        (build tangled.context 1).run (tangled.state, ()) := by
  obtain ⟨hunit, hgives, hlater⟩ := computed_tangled
  have hloaded := Sample.loaded hunit
  have hreached : tangled.state.Reached tangled.context.index tangled.read.2 := .names _ .loaded
  obtain ⟨hnesting, hunfinished, hlimits, -⟩ :=
    build_terminates hloaded hreached (not_transGen_givesLambda hlater) 1 ()
  exact ⟨hloaded, hreached, ⟨_, Sample.get?_unit hunit, hgives⟩, hnesting, hunfinished, hlimits⟩

end Building

end PackageVet

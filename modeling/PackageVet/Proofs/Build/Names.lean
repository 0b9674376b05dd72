import PackageVet.Proofs.Build.Likeness

/-! What the names of a package stand for, all at once.

A property of all names that are known (`BuildState.Knows`) is kept by whatever opens and closes
frames, and by every declaration of a name that has it. Fresh names are those of functions
(`BuildState.knows_initializeScopes`). -/
namespace PackageVet

namespace Scope
variable {s : Scope} {P : Identifier → Prop}

/-- Whether all that a scope knows has a property. -/
def All (s : Scope) (P : Identifier → Prop) : Prop :=
  ∀ frame ∈ s.frames, ∀ i ∈ frame.declared, P i

theorem all_empty : All {} P := by
  intro frame hframe i hi
  cases List.mem_singleton.mp hframe
  cases hi

theorem All.mono {Q : Identifier → Prop} (h : s.All P) (hPQ : ∀ i, P i → Q i) : s.All Q :=
  fun frame hframe i hi => hPQ i (h frame hframe i hi)

theorem All.lookup? {name : String} {line : Nat} {i : Identifier} (h : s.All P)
    (hfound : s.lookup? name line = some i) : P i ∧ i.name = name := by
  obtain ⟨frame, hframe, hin⟩ := List.exists_of_findSome?_eq_some hfound
  have hname := List.find?_some hin
  simp only [Bool.and_eq_true, decide_eq_true_eq] at hname
  exact ⟨h frame hframe i (List.mem_of_find?_eq_some hin), hname.1⟩

theorem All.declare {i : Identifier} (h : s.All P) (hi : P i) : (s.declare i).All P := by
  obtain ⟨inner, root⟩ := s
  cases inner with
  | nil =>
    intro frame hframe j hj
    cases List.mem_singleton.mp hframe
    rcases List.mem_cons.mp hj with rfl | hj
    · exact hi
    · exact h root (by simp [frames]) j hj
  | cons first rest =>
    intro frame hframe j hj
    rcases List.mem_cons.mp hframe with rfl | hframe
    · rcases List.mem_cons.mp hj with rfl | hj
      · exact hi
      · exact h first (by simp [frames]) j hj
    · exact h frame (List.mem_cons_of_mem _ hframe) j hj

theorem All.push (h : s.All P) (name : String) : (s.push name).All P := by
  intro frame hframe j hj
  rcases List.mem_cons.mp hframe with rfl | hframe
  · cases hj
  · exact h frame hframe j hj

theorem All.pop (h : s.All P) : s.pop.All P := by
  intro frame hframe
  refine h frame ?_
  rcases List.mem_append.mp hframe with hframe | hframe
  · exact List.mem_append_left _ (List.mem_of_mem_tail hframe)
  · exact List.mem_append_right _ hframe

end Scope

namespace BuildState
variable {s : BuildState} {P : String → Identifier → Prop}

theorem scope_markAnalyzed (s : BuildState) (unit : NodeId) (file : String) :
    (s.markAnalyzed unit).scope file = s.scope file := by
  have hscopes : (s.markAnalyzed unit).scopes = s.scopes := by
    unfold markAnalyzed
    split <;> rfl
  rw [scope, scope, hscopes]

theorem unregistered_markAnalyzed (s : BuildState) (unit : NodeId) :
    (s.markAnalyzed unit).unregistered = s.unregistered := by
  unfold markAnalyzed
  split <;> rfl

theorem unregistered_initializeScopes (s : BuildState) (index : UnitIndex)
    (sources : PackageSources) :
    (s.initializeScopes index sources).unregistered = s.unregistered :=
  List.foldlRecOn (motive := fun (t : BuildState) => t.unregistered = s.unregistered) _ _ rfl
    fun _ h _ _ => h

/-- Whether all names that are known have a property, in their files. -/
def Knows (s : BuildState) (P : (file : String) → Identifier → Prop) : Prop :=
  ∀ file, (s.scope file).All (P file)

theorem knows_loaded (arena : Arena) : Knows { arena } P := fun _ => Scope.all_empty

theorem Knows.setScope {file : String} {scope : Scope} (h : s.Knows P)
    (hscope : scope.All (P file)) : (s.setScope file scope).Knows P := by
  intro other
  rw [scope_setScope]
  split
  · next heq => exact heq ▸ hscope
  · exact h other

theorem Knows.declare {i : Identifier} (h : s.Knows P) (hi : P i.file i) : (s.declare i).Knows P :=
  h.setScope ((h i.file).declare hi)

theorem Knows.markAnalyzed (h : s.Knows P) (unit : NodeId) : (s.markAnalyzed unit).Knows P := by
  intro file
  rw [scope_markAnalyzed]
  exact h file

theorem Knows.enter (h : s.Knows P) (i : Inlining) : (i.enter s).Knows P := by
  cases i with
  | function unit file name => exact (h.setScope ((h file).push name)).markAnalyzed unit.id
  | localModule unit file name => exact (h.setScope ((h file).push name)).markAnalyzed unit.id
  | lambda unit file => exact (h.setScope ((h file).push unit.name)).markAnalyzed unit.id
  | program unit file => exact Knows.markAnalyzed (s := s.openFile file) h unit.id

theorem Knows.leave (h : s.Knows P) (i : Inlining) : (i.leave s).Knows P := by
  cases i with
  | function unit file name => exact h.setScope (h file).pop
  | localModule unit file name => exact h.setScope (h file).pop
  | lambda unit file => exact h.setScope (h file).pop
  | program unit file => exact h

/-- The names that are known from the beginning are those of functions. -/
theorem knows_initializeScopes (s : BuildState) {index : UnitIndex} (sources : PackageSources)
    (h : ∀ u ∈ index.units, P u.file (.ofFunction u.name u.file u.id)) :
    (s.initializeScopes index sources).Knows P := by
  refine List.foldlRecOn (motive := fun (t : BuildState) => t.Knows P) _ _ ?_ ?_
  · intro file
    have hempty := s.scope_forgotten file
    rw [hempty]
    exact Scope.all_empty
  · exact fun t ht u hu => ht.declare (h u (List.mem_filter.mp hu).1)

end BuildState

end PackageVet

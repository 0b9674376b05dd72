import Mathlib.Data.List.Forall2
import PackageVet.Proofs.Build.Termination

/-! A build leaves open what it found open.

What a build opens it closes again, in whichever file and however deep, and also when it fails in
between. So the frames that are open in a file afterwards are those that were open before, one by
one, and in each of them stand the names of before, perhaps with newer ones on top
(`Scope.Extends`). This is a relation that every step of a build allows (`stable_restored`), so it
holds over every build (`build_restores`). -/
namespace PackageVet

/-! ### Frames and scopes -/

/-- Whether a frame is another one, perhaps with newer names in it. -/
structure Frame.Extends (old new : Frame) : Prop where
  name : new.name = old.name
  declared : ∃ newer, new.declared = newer ++ old.declared

theorem Frame.Extends.refl (f : Frame) : f.Extends f := ⟨rfl, [], rfl⟩

theorem Frame.Extends.trans {a b c : Frame} (hab : a.Extends b) (hbc : b.Extends c) :
    a.Extends c := by
  obtain ⟨first, hfirst⟩ := hab.declared
  obtain ⟨second, hsecond⟩ := hbc.declared
  refine ⟨hbc.name.trans hab.name, second ++ first, ?_⟩
  rw [hsecond, hfirst, List.append_assoc]

/-- One more name goes on top of the others. -/
theorem Frame.extends_declare (f : Frame) (i : Identifier) :
    f.Extends { f with declared := i :: f.declared } :=
  ⟨rfl, [i], rfl⟩

namespace Scope
variable {s t : Scope}

/-- Whether the same frames are open, each perhaps with newer names in it. -/
structure Extends (s t : Scope) : Prop where
  inner : List.Forall₂ Frame.Extends s.inner t.inner
  root : s.root.Extends t.root

theorem Extends.refl (s : Scope) : s.Extends s :=
  ⟨List.forall₂_same.mpr fun frame _ => .refl frame, .refl s.root⟩

theorem Extends.trans {u : Scope} (hst : s.Extends t) (htu : t.Extends u) : s.Extends u := by
  refine ⟨?_, hst.root.trans htu.root⟩
  have htrans : ∀ {as bs cs : List Frame}, List.Forall₂ Frame.Extends as bs →
      List.Forall₂ Frame.Extends bs cs → List.Forall₂ Frame.Extends as cs := by
    intro as bs cs hab
    induction hab generalizing cs with
    | nil => exact fun hbc => hbc
    | cons hframe _ ih =>
      rintro (_ | ⟨hnext, hrest⟩)
      exact .cons (hframe.trans hnext) (ih hrest)
  exact htrans hst.inner htu.inner

theorem extends_declare (s : Scope) (i : Identifier) : s.Extends (s.declare i) := by
  obtain ⟨inner, root⟩ := s
  cases inner with
  | nil => exact ⟨.nil, root.extends_declare i⟩
  | cons frame rest =>
    have hrest : List.Forall₂ Frame.Extends rest rest :=
      List.forall₂_same.mpr fun frame _ => .refl frame
    exact ⟨.cons (frame.extends_declare i) hrest, .refl root⟩

/-- The frame that was pushed goes with all that was declared in it. -/
theorem Extends.pop {name : String} (h : (s.push name).Extends t) : s.Extends t.pop := by
  obtain ⟨hinner, hroot⟩ := h
  refine ⟨?_, hroot⟩
  show List.Forall₂ Frame.Extends s.inner t.inner.tail
  obtain ⟨frame, rest, -, hrest, htail⟩ := List.forall₂_cons_left_iff.mp hinner
  rw [htail]
  exact hrest

theorem Extends.frames (h : s.Extends t) : List.Forall₂ Frame.Extends s.frames t.frames :=
  List.rel_append h.inner (.cons h.root .nil)

theorem Extends.names (h : s.Extends t) : t.names = s.names := by
  have hframes : List.Forall₂ (fun old new : Frame => old.name = new.name) s.frames t.frames :=
    h.frames.imp fun _ _ hframe => hframe.name.symm
  have hnames : List.Forall₂ Eq s.names t.names :=
    List.forall₂_map_left_iff.mpr (List.forall₂_map_right_iff.mpr hframes)
  rw [List.forall₂_eq_eq_eq] at hnames
  exact hnames.symm

end Scope

/-! ### States -/

namespace BuildState
variable {s t : BuildState}

/-- Whether the same files are being required and the same frames are open in every file. -/
structure Restored (s t : BuildState) : Prop where
  requiring : t.requiring = s.requiring
  scopes : ∀ file, (s.scope file).Extends (t.scope file)

theorem Restored.refl (s : BuildState) : s.Restored s := ⟨rfl, fun file => .refl (s.scope file)⟩

theorem Restored.isOpen (h : s.Restored t) (file name : String) :
    t.isOpen file name = s.isOpen file name := by
  rw [Bool.eq_iff_iff, BuildState.isOpen, BuildState.isOpen, Scope.isOpen_iff, Scope.isOpen_iff,
    (h.scopes file).names]

theorem restored_declare (s : BuildState) (i : Identifier) : s.Restored (s.declare i) := by
  refine ⟨rfl, fun file => ?_⟩
  rw [declare, scope_setScope]
  by_cases hfile : file = i.file
  · rw [if_pos hfile, hfile]
    exact (s.scope i.file).extends_declare i
  · rw [if_neg hfile]
    exact .refl (s.scope file)

/-- Closing the frame that was opened for a unit. -/
theorem Restored.closeFrame {file name : String} {unit : NodeId}
    (h : ((s.openFrame file name).markAnalyzed unit).Restored t) :
    s.Restored (t.closeFrame file) := by
  refine ⟨?_, fun other => ?_⟩
  · have hrequiring := h.requiring
    rw [requiring_markAnalyzed] at hrequiring
    exact hrequiring
  · have hscope := h.scopes other
    rw [scope_markAnalyzed, openFrame, scope_setScope] at hscope
    rw [BuildState.closeFrame, scope_setScope]
    by_cases hother : other = file
    · subst hother
      rw [if_pos rfl] at hscope ⊢
      exact hscope.pop
    · rw [if_neg hother] at hscope ⊢
      exact hscope

/-- Closing the file that was opened for its top level. -/
theorem Restored.closeFile {file : String} {unit : NodeId}
    (h : ((s.openFile file).markAnalyzed unit).Restored t) : s.Restored t.closeFile := by
  refine ⟨?_, fun other => ?_⟩
  · have hrequiring := h.requiring
    rw [requiring_markAnalyzed] at hrequiring
    show t.requiring.tail = s.requiring
    rw [hrequiring]
    rfl
  · have hscope := h.scopes other
    rw [scope_markAnalyzed] at hscope
    exact hscope

theorem stable_restored : Stable Restored where
  refl := .refl
  trans hab hbc :=
    ⟨hbc.requiring.trans hab.requiring, fun file => (hab.scopes file).trans (hbc.scopes file)⟩
  note s _ _ _ := ⟨rfl, fun file => .refl (s.scope file)⟩
  refuse s _ := ⟨rfl, fun file => .refl (s.scope file)⟩
  declare := restored_declare
  mark s _ _ _ := ⟨rfl, fun file => .refl (s.scope file)⟩
  inline i s s' h := by
    cases i with
    | function unit file name => exact h.closeFrame
    | localModule unit file name => exact h.closeFrame
    | lambda unit file => exact h.closeFrame
    | program unit file => exact h.closeFile

end BuildState

/-! ### Builds -/

/-- After a build, failed or not, the same files are being required as before, and in every file the
same frames are open: in a file that was not known, the root alone. Each frame holds what it held,
perhaps with newer names on top. -/
theorem Building.build_restores {σ : Type} (c : BuildContext σ) (id : NodeId) (s : BuildState)
    (services : σ) :
    let after := ((build c id).run (s, services)).2.1
    after.requiring = s.requiring ∧
    (∀ file, (after.scope file).names = (s.scope file).names) ∧
    (∀ file, s.scopes.get? file = none → (after.scope file).names = ["program"]) ∧
    ∀ file, List.Forall₂ (fun old new => ∃ newer, new.declared = newer ++ old.declared)
      (s.scope file).frames (after.scope file).frames := by
  intro after
  have hrestored : s.Restored after :=
    (leaves_buildWithin BuildState.stable_restored c (maxDepth c) id).state s services
  have hnames (file : String) : (after.scope file).names = (s.scope file).names :=
    (hrestored.scopes file).names
  refine ⟨hrestored.requiring, hnames, fun file hnew => ?_, fun file => ?_⟩
  · have hempty : s.scope file = {} := by rw [BuildState.scope, hnew]; rfl
    rw [hnames, hempty]
    rfl
  · exact (hrestored.scopes file).frames.imp fun _ _ hframe => hframe.declared

/-! ### A build that runs out of time -/

/-- A clock that has gone on each time it is read. -/
def Clock.ticking : Clock Nat := fun now => (⟨now⟩, now + 1)

/-- A top level that calls a function. -/
def callsOnce : Sample where
  code := .sketch
    [(1, "METHOD", [("NAME", ":program"), ("FILENAME", "a.js")]),
      (2, "CALL", [("NAME", "f"), ("CODE", "f()")]),
      (10, "METHOD", [("NAME", "f"), ("FILENAME", "a.js")])] []
  exports := ["digraph\x7b1->2\x7d", "digraph\x7b10\x7d"]

/-- There is time for both checks of the top level, but not for that of the function. -/
def hurried : BuildContext Nat where
  code := callsOnce.code
  index := callsOnce.context.index
  sources := callsOnce.context.sources
  knowledge := .silent
  deadline := { limit := some ⟨2⟩, clock := .ticking }

theorem computed_hurried :
    ((Building.build hurried 1).run (callsOnce.state, 0)).1 = .error (.timeout ⟨2⟩) ∧
    ((Building.build hurried 1).run (callsOnce.state, 0)).2.1.isAnalyzed 10 = true ∧
    (callsOnce.state.scope "a.js").names = ["program"] := by
  decide +kernel

/-- The function was already opened when the time was up, and is not open any more. -/
theorem Building.build_restores_hurried :
    ((build hurried 1).run (callsOnce.state, 0)).1 = .error (.timeout ⟨2⟩) ∧
    ((build hurried 1).run (callsOnce.state, 0)).2.1.isAnalyzed 10 = true ∧
    (((build hurried 1).run (callsOnce.state, 0)).2.1.scope "a.js").names = ["program"] := by
  obtain ⟨htimeout, hopened, hnames⟩ := computed_hurried
  obtain ⟨-, hsame, -⟩ := build_restores hurried 1 callsOnce.state 0
  exact ⟨htimeout, hopened, (hsame "a.js").trans hnames⟩

end PackageVet

import PackageVet.Proofs.Build.Steps

/-! Two builds of one package, side by side.

The second of two builds starts from the marks that the first one left. Where the two then differ is
only in the marks of calls to which neither has come yet (`Arena.SameOrOld`) and, following from
that, in the call that a name's value came from (`Identifier.blur`): names, open frames and files,
and what the exports say are the same (`BuildState.Like`). Their graphs have the same nodes and
returned values, and the same edges but for those that look at such marks
(`BehaviorGraph.Like`). -/
namespace PackageVet

theorem rel_of_map_eq {α β : Type} {f : α → β} {x y : Option α} (h : x.map f = y.map f) :
    Option.Rel (fun a b => f a = f b) x y := by
  cases x with
  | none =>
    rw [Option.map_eq_none_iff.mp h.symm]
    exact .none
  | some a =>
    obtain ⟨b, rfl, hb⟩ := Option.map_eq_some_iff.mp h.symm
    exact .some hb.symm

/-! ### Names -/

/-- Whether an identifier holds a value, and not a module or a function. -/
def IdentifierKind.isValue : IdentifierKind → Bool
  | .require | .functionFromRequire | .functionDeclare => false
  | _ => true

/-- All kinds of values are one here. -/
def IdentifierKind.blur : IdentifierKind → IdentifierKind
  | .localModuleReturnValue | .functionReturnValue | .returnObject => .identifier
  | kind => kind

theorem IdentifierKind.isFunction_blur (kind : IdentifierKind) :
    kind.blur.isFunction = kind.isFunction := by
  cases kind <;> rfl

theorem IdentifierKind.blur_eq_blur {kind kind' : IdentifierKind} (h : kind.blur = kind'.blur) :
    kind = kind' ∨ (kind.isValue = true ∧ kind'.isValue = true) := by
  cases kind <;> cases kind' <;> simp_all [blur, isValue]

theorem IdentifierKind.blur_eq_require {kind : IdentifierKind} :
    kind.blur = .require ↔ kind = .require := by
  cases kind <;> simp [blur]

theorem IdentifierKind.blur_eq_functionDeclare {kind : IdentifierKind} :
    kind.blur = .functionDeclare ↔ kind = .functionDeclare := by
  cases kind <;> simp [blur]

/-- What an identifier stands for, without the call that its value came from. -/
def Identifier.blur (i : Identifier) : Identifier :=
  { i with kind := i.kind.blur, fullName := none, origin := none, createdBy := [] }

theorem Identifier.blur_resolveFrom (i other : Identifier) :
    (i.resolveFrom other).blur = i.blur.resolveFrom other.blur := rfl

/-- What identifiers have in common that are the same up to the call that their values came
from. -/
structure Identifier.Agree (i j : Identifier) : Prop where
  kind : i.kind.blur = j.kind.blur
  node : i.node = j.node
  file : i.file = j.file
  module? : i.module? = j.module?
  isLocal : i.isLocal = j.isLocal
  isBuiltin : i.isBuiltin = j.isBuiltin
  isThirdParty : i.isThirdParty = j.isThirdParty
  importedFunction : i.importedFunction = j.importedFunction
  source : i.source = j.source
  declaration : i.declaration = j.declaration

theorem Identifier.Agree.require_iff {i j : Identifier} (h : i.Agree j) :
    i.kind = .require ↔ j.kind = .require := by
  rw [← IdentifierKind.blur_eq_require, h.kind, IdentifierKind.blur_eq_require]

theorem Identifier.Agree.functionDeclare_iff {i j : Identifier} (h : i.Agree j) :
    i.kind = .functionDeclare ↔ j.kind = .functionDeclare := by
  rw [← IdentifierKind.blur_eq_functionDeclare, h.kind, IdentifierKind.blur_eq_functionDeclare]

theorem Identifier.Agree.isFunction {i j : Identifier} (h : i.Agree j) :
    i.kind.isFunction = j.kind.isFunction := by
  rw [← IdentifierKind.isFunction_blur, h.kind, IdentifierKind.isFunction_blur]

theorem Identifier.agree_of_blur {i j : Identifier} (h : i.blur = j.blur) : i.Agree j := by
  simp only [blur, Identifier.mk.injEq] at h
  constructor <;> simp only [h]

def Frame.blur (f : Frame) : Frame := { f with declared := f.declared.map Identifier.blur }

namespace Scope
variable (s : Scope)

def blur : Scope := { inner := s.inner.map Frame.blur, root := s.root.blur }

theorem frames_blur : s.blur.frames = s.frames.map Frame.blur := by
  simp [frames, blur]

theorem blur_declare (i : Identifier) : (s.declare i).blur = s.blur.declare i.blur := by
  obtain ⟨inner, root⟩ := s
  cases inner <;> rfl

theorem blur_push (name : String) : (s.push name).blur = s.blur.push name := rfl

theorem blur_pop : s.pop.blur = s.blur.pop := by
  simp [pop, blur, List.map_tail]

theorem isOpen_blur (name : String) : s.blur.isOpen name = s.isOpen name := by
  rw [isOpen, isOpen, frames_blur, List.any_map]
  rfl

theorem Frame.lookup?_blur (f : Frame) (name : String) (line : Nat) :
    Frame.lookup? f.blur name line = (Frame.lookup? f name line).map Identifier.blur :=
  List.find?_map ..

theorem lookup?_blur (name : String) (line : Nat) :
    s.blur.lookup? name line = (s.lookup? name line).map Identifier.blur := by
  rw [lookup?, lookup?, frames_blur]
  induction s.frames with
  | nil => rfl
  | cons frame rest ih =>
    rw [List.map_cons, List.findSome?_cons, List.findSome?_cons, Frame.lookup?_blur]
    cases Frame.lookup? frame name line with
    | none => exact ih
    | some found => rfl

end Scope

/-! ### Marks -/

/-- A node with what is known of it as a call. -/
def ProgramNode.asCall (n : ProgramNode) : ProgramNode :=
  { n with returnValue := false, fullName := none, derivation := none, sensitivity := none }

theorem ProgramNode.asCall_eq {n m : ProgramNode} (hcode : n.unmarked = m.unmarked)
    (hkind : n.callKind = m.callKind) (hcallee : n.callee = m.callee) : n.asCall = m.asCall := by
  have hn : ∀ n : ProgramNode, n.asCall =
      { n.unmarked with callKind := n.callKind, callee := n.callee } := fun _ => rfl
  rw [hn n, hn m, hcode, hkind, hcallee]

/-- Whether two nodes are the same in the code and, under a condition, as calls. -/
structure ProgramNode.Like (settled : Prop) (n₁ n₂ : ProgramNode) : Prop where
  code : n₁.unmarked = n₂.unmarked
  call : settled → n₁.asCall = n₂.asCall

namespace Arena
variable {α : Type} {f : ProgramNode → Option α} {A B a b a₁ a₂ : Arena} {id : NodeId}
  {change : ProgramNode → ProgramNode}

def calls (a : Arena) (id : NodeId) : Option ProgramNode := (a.get? id).map ProgramNode.asCall

/-- One of the marks of a node. -/
def mark (a : Arena) (f : ProgramNode → Option α) (id : NodeId) : Option α := (a.get? id).bind f

theorem unmarked_of_calls (h : a.calls = b.calls) : a.unmarked = b.unmarked := by
  have hview : ∀ a : Arena, a.unmarked = fun id => (a.calls id).map ProgramNode.unmarked := by
    intro a
    funext id
    rw [calls, Option.map_map]
    rfl
  rw [hview a, hview b, h]

theorem mark_of_calls (hf : ∀ n, f n.asCall = f n) (h : a.calls = b.calls) :
    a.mark f = b.mark f := by
  have hview : ∀ a : Arena, a.mark f = fun id => (a.calls id).bind f := by
    intro a
    funext id
    cases hid : a.get? id with
    | none => simp [mark, calls, hid]
    | some n => simp [mark, calls, hid, hf]
  rw [hview a, hview b, h]

theorem calls_eq (hcode : a.unmarked = b.unmarked)
    (hkind : a.mark ProgramNode.callKind = b.mark ProgramNode.callKind)
    (hcallee : a.mark ProgramNode.callee = b.mark ProgramNode.callee) : a.calls = b.calls := by
  funext id
  have hc := congrFun hcode id
  have hk := congrFun hkind id
  have hl := congrFun hcallee id
  unfold unmarked at hc
  unfold mark at hk hl
  unfold calls
  cases ha : a.get? id with
  | none =>
    rw [ha] at hc
    rw [Option.map_eq_none_iff.mp hc.symm]
  | some n =>
    rw [ha] at hc hk hl
    obtain ⟨m, hb, hm⟩ := Option.map_eq_some_iff.mp hc.symm
    rw [hb] at hk hl ⊢
    exact congrArg some (ProgramNode.asCall_eq hm.symm hk hl)

theorem mark_modify_of_keep (a : Arena) (id : NodeId) (h : ∀ n, f (change n) = f n) :
    mark (a.modify id change) f = a.mark f := by
  funext other
  rw [mark, mark, Table.get?_modify]
  split
  · cases a.get? other with
    | none => rfl
    | some n => exact h n
  · rfl

theorem mark_modify_of_set (a : Arena) (id : NodeId) {value : Option α}
    (h : ∀ n, f (change n) = value) (other : NodeId) :
    mark (a.modify id change) f other =
      if other = id then (a.unmarked id).bind fun _ => value else a.mark f other := by
  rw [mark, mark, Table.get?_modify]
  split
  · next hid =>
    subst hid
    cases hn : a.get? other with
    | none => simp [unmarked, hn]
    | some n => simp [unmarked, hn, h]
  · rfl

/-- Whether two arenas have the same mark at each node, or each still the mark of an earlier
one. -/
def SameOrOld (f : ProgramNode → Option α) (A B a₁ a₂ : Arena) : Prop :=
  ∀ id, a₁.mark f id = a₂.mark f id ∨ (a₁.mark f id = A.mark f id ∧ a₂.mark f id = B.mark f id)

theorem SameOrOld.start : SameOrOld f A B A B := fun _ => .inr ⟨rfl, rfl⟩

theorem SameOrOld.congr (h : SameOrOld f A B a b) (ha : a₁.mark f = a.mark f)
    (hb : a₂.mark f = b.mark f) : SameOrOld f A B a₁ a₂ := fun id => by
  rw [ha, hb]
  exact h id

theorem SameOrOld.keep (h : SameOrOld f A B a b) (id : NodeId) (hkeep : ∀ n, f (change n) = f n) :
    SameOrOld f A B (a.modify id change) (b.modify id change) :=
  h.congr (a.mark_modify_of_keep id hkeep) (b.mark_modify_of_keep id hkeep)

theorem SameOrOld.set (h : SameOrOld f A B a b) (hcode : a.unmarked = b.unmarked) (id : NodeId)
    {value : Option α} (hset : ∀ n, f (change n) = value) :
    SameOrOld f A B (a.modify id change) (b.modify id change) := fun other => by
  rw [mark_modify_of_set a id hset, mark_modify_of_set b id hset, hcode]
  split
  · exact .inl rfl
  · exact h other

/-- From the same marks two builds come to the same marks. -/
theorem SameOrOld.same (h : SameOrOld f A B a b) (hAB : A.mark f = B.mark f) :
    a.mark f = b.mark f := by
  funext id
  rcases h id with hsame | ⟨ha, hb⟩
  · exact hsame
  · rw [ha, hb, hAB]

/-- A build from the marks that another one left comes to these marks again. -/
theorem SameOrOld.again (h : SameOrOld f A a a b) : a.mark f = b.mark f := by
  funext id
  rcases h id with hsame | ⟨-, hb⟩
  · exact hsame
  · exact hb.symm

def name (a : Arena) (id : NodeId) : String := ((a.get? id).map ProgramNode.name).getD ""

theorem map_get?_of_unmarked {g : ProgramNode → α} (hg : ∀ n, g n.unmarked = g n)
    (h : a.unmarked = b.unmarked) (id : NodeId) : (a.get? id).map g = (b.get? id).map g := by
  have hview : ∀ a : Arena, (a.get? id).map g = (a.unmarked id).map g := by
    intro a
    rw [unmarked, Option.map_map]
    exact Option.map_congr fun n _ => (hg n).symm
  rw [hview a, hview b, h]

/-- Whether every node is known by its own id. -/
def Keyed (a : Arena) : Prop := ∀ id n, a.get? id = some n → n.id = id

theorem Keyed.of_unmarked (hb : b.Keyed) (h : a.unmarked = b.unmarked) : a.Keyed := by
  intro id n hn
  have hid := map_get?_of_unmarked (fun n => (rfl : n.unmarked.id = n.id)) h id
  rw [hn] at hid
  obtain ⟨m, hm, hmn⟩ := Option.map_eq_some_iff.mp hid.symm
  exact hmn.symm.trans (hb id m hm)

theorem name_of_unmarked (h : a.unmarked = b.unmarked) : a.name = b.name := by
  funext id
  rw [name, name, map_get?_of_unmarked (fun _ => rfl) h]

theorem line_of_unmarked (h : a.unmarked = b.unmarked) : a.line = b.line := by
  funext id
  rw [line, line, map_get?_of_unmarked (fun _ => rfl) h]

/-- Whether only assignments are marked as such, by what one arena says of the code. -/
def AssignedIn (A a : Arena) : Prop :=
  ∀ id, a.mark ProgramNode.callKind id = some .assignment → A.name id = "<operator>.assignment"

theorem AssignedIn.congr (h : AssignedIn A a)
    (hb : b.mark ProgramNode.callKind = a.mark ProgramNode.callKind) : AssignedIn A b :=
  fun id hid => h id (hb ▸ hid)

theorem AssignedIn.set (h : AssignedIn A a) (id : NodeId)
    (hset : ∀ n, ∃ kind, (change n).callKind = some kind ∧
      (kind = .assignment → A.name id = "<operator>.assignment")) :
    AssignedIn A (a.modify id change) := by
  intro other hother
  rw [mark, Table.get?_modify] at hother
  split at hother
  · next he =>
    obtain ⟨n, hn, hkind⟩ := Option.bind_eq_some_iff.mp hother
    obtain ⟨m, -, rfl⟩ := Option.map_eq_some_iff.mp hn
    obtain ⟨kind, hset, hname⟩ := hset m
    rw [he]
    exact hname (Option.some.inj (hset.symm.trans hkind))
  · exact h other hother

/-- Whether a node looks at the call that its data comes from. -/
def takesValue (a : Arena) (id : NodeId) : Bool :=
  a.name id = "<operator>.assignment" || a.name id = "<operator>.formatString"

/-- Whether data may come to a node from what a unit returns. -/
def takesReturns (a : Arena) (id : NodeId) : Bool :=
  a.takesValue id || (a.mark ProgramNode.callee id).isSome

theorem takesValue_of_unmarked (h : a.unmarked = b.unmarked) : a.takesValue = b.takesValue := by
  funext id
  rw [takesValue, takesValue, name_of_unmarked h]

theorem takesReturns_of_calls (h : a.calls = b.calls) : a.takesReturns = b.takesReturns := by
  funext id
  rw [takesReturns, takesReturns, takesValue_of_unmarked (unmarked_of_calls h),
    mark_of_calls (fun _ => rfl) h]

end Arena

/-! ### States -/

namespace BuildState
variable {A B : Arena} {s s' s₁ s₂ s₁' s₂' : BuildState}

theorem scope_setScope (s : BuildState) (file : String) (scope : Scope) (other : String) :
    (s.setScope file scope).scope other = if other = file then scope else s.scope other := by
  unfold BuildState.scope setScope
  rw [Table.get?_insert]
  split <;> rfl

/-- No file knows a name once all names are forgotten. -/
theorem scope_forgotten (s : BuildState) (file : String) :
    scope { s with scopes := ⟨s.scopes.entries.map fun e => (e.1, {})⟩ } file = {} := by
  unfold scope Table.get?
  dsimp only
  induction s.scopes.entries with
  | nil => rfl
  | cons e rest ih =>
    rw [List.map_cons, Table.find?]
    split
    · rfl
    · exact ih

/-- Whether a state is as another for all that a walk looks at. -/
structure SameView (s s' : BuildState) : Prop where
  scopes : s'.scopes = s.scopes
  requiring : s'.requiring = s.requiring
  calls : s'.arena.calls = s.arena.calls

theorem quiet_sameView : Quiet SameView where
  refl s := ⟨rfl, rfl, rfl⟩
  trans h h' := ⟨h'.scopes.trans h.scopes, h'.requiring.trans h.requiring, h'.calls.trans h.calls⟩
  note s id change h := by
    refine ⟨rfl, rfl, Arena.calls_eq ?_ ?_ ?_⟩
    · exact funext fun other => s.arena.unmarked_modify id (fun n => (h n).1) other
    · exact s.arena.mark_modify_of_keep id fun n => (h n).2.1
    · exact s.arena.mark_modify_of_keep id fun n => (h n).2.2
  refuse s _ := ⟨rfl, rfl, rfl⟩

theorem sameView_markAnalyzed (s : BuildState) (unit : NodeId) :
    SameView s (s.markAnalyzed unit) := by
  unfold markAnalyzed
  split <;> exact ⟨rfl, rfl, rfl⟩

/-- Whether the states of two builds, one from each of two arenas of the same code, are at the same
point of their walks. -/
structure Like (A B : Arena) (s₁ s₂ : BuildState) : Prop where
  keyed : A.Keyed
  scopes : ∀ file, (s₁.scope file).blur = (s₂.scope file).blur
  requiring : s₁.requiring = s₂.requiring
  code₁ : s₁.arena.unmarked = A.unmarked
  code₂ : s₂.arena.unmarked = A.unmarked
  kinds : Arena.SameOrOld ProgramNode.callKind A B s₁.arena s₂.arena
  callees : Arena.SameOrOld ProgramNode.callee A B s₁.arena s₂.arena
  assigned₁ : Arena.AssignedIn A s₁.arena
  assigned₂ : Arena.AssignedIn A s₂.arena

namespace Like

theorem code (h : Like A B s₁ s₂) : s₁.arena.unmarked = s₂.arena.unmarked :=
  h.code₁.trans h.code₂.symm

/-- Two builds from the same marks see the same marks all along. -/
theorem calls (h : Like A B s₁ s₂) (hAB : A.calls = B.calls) : s₁.arena.calls = s₂.arena.calls :=
  Arena.calls_eq h.code (h.kinds.same (Arena.mark_of_calls (fun _ => rfl) hAB))
    (h.callees.same (Arena.mark_of_calls (fun _ => rfl) hAB))

theorem lookup? (h : Like A B s₁ s₂) (file name : String) (line : Nat) :
    Option.Rel (fun i j => i.blur = j.blur) (s₁.lookup? file name line)
      (s₂.lookup? file name line) := by
  refine rel_of_map_eq ?_
  unfold BuildState.lookup?
  rw [← Scope.lookup?_blur, ← Scope.lookup?_blur, h.scopes]

theorem get? (h : Like A B s₁ s₂) (id : NodeId) :
    Option.Rel (ProgramNode.Like (A.calls = B.calls)) (s₁.arena.get? id) (s₂.arena.get? id) := by
  have hcalls : A.calls = B.calls → s₁.arena.calls id = s₂.arena.calls id :=
    fun hAB => congrFun (h.calls hAB) id
  have hcode := rel_of_map_eq (congrFun h.code id)
  unfold Arena.calls at hcalls
  generalize s₁.arena.get? id = n₁ at hcalls hcode ⊢
  generalize s₂.arena.get? id = n₂ at hcalls hcode ⊢
  cases hcode with
  | none => exact .none
  | some hcode => exact .some ⟨hcode, fun hAB => Option.some.inj (hcalls hAB)⟩

theorem known (h : Like A B s₁ s₂) {id : NodeId} {n : ProgramNode}
    (hn : s₁.arena.get? id = some n) : n.id = id ∧ A.name id = n.name := by
  refine ⟨h.keyed.of_unmarked h.code₁ id n hn, ?_⟩
  rw [← Arena.name_of_unmarked h.code₁, Arena.name, hn]
  rfl

theorem isOpen (h : Like A B s₁ s₂) (file name : String) :
    s₁.isOpen file name = s₂.isOpen file name := by
  unfold BuildState.isOpen
  rw [← Scope.isOpen_blur, h.scopes, Scope.isOpen_blur]

theorem view (h : Like A B s₁ s₂) (h₁ : SameView s₁ s₁') (h₂ : SameView s₂ s₂') :
    Like A B s₁' s₂' where
  keyed := h.keyed
  scopes file := by
    rw [BuildState.scope, h₁.scopes, BuildState.scope, h₂.scopes]
    exact h.scopes file
  requiring := by rw [h₁.requiring, h₂.requiring, h.requiring]
  code₁ := (Arena.unmarked_of_calls h₁.calls).trans h.code₁
  code₂ := (Arena.unmarked_of_calls h₂.calls).trans h.code₂
  kinds := h.kinds.congr (Arena.mark_of_calls (fun _ => rfl) h₁.calls)
    (Arena.mark_of_calls (fun _ => rfl) h₂.calls)
  callees := h.callees.congr (Arena.mark_of_calls (fun _ => rfl) h₁.calls)
    (Arena.mark_of_calls (fun _ => rfl) h₂.calls)
  assigned₁ := h.assigned₁.congr (Arena.mark_of_calls (fun _ => rfl) h₁.calls)
  assigned₂ := h.assigned₂.congr (Arena.mark_of_calls (fun _ => rfl) h₂.calls)

/-- The same change of a file's names, up to blur. -/
theorem setScope (h : Like A B s₁ s₂) (file : String) {scope₁ scope₂ : Scope}
    (hscope : scope₁.blur = scope₂.blur) :
    Like A B (s₁.setScope file scope₁) (s₂.setScope file scope₂) where
  scopes other := by
    rw [scope_setScope, scope_setScope]
    split
    · exact hscope
    · exact h.scopes other
  keyed := h.keyed
  requiring := h.requiring
  code₁ := h.code₁
  code₂ := h.code₂
  kinds := h.kinds
  callees := h.callees
  assigned₁ := h.assigned₁
  assigned₂ := h.assigned₂

theorem declare (h : Like A B s₁ s₂) {i j : Identifier} (hij : i.blur = j.blur) :
    Like A B (s₁.declare i) (s₂.declare j) := by
  unfold BuildState.declare
  rw [(Identifier.agree_of_blur hij).file]
  refine h.setScope j.file ?_
  rw [Scope.blur_declare, Scope.blur_declare, h.scopes, hij]

theorem openFrame (h : Like A B s₁ s₂) (file name : String) :
    Like A B (s₁.openFrame file name) (s₂.openFrame file name) :=
  h.setScope file (by rw [Scope.blur_push, Scope.blur_push, h.scopes])

theorem closeFrame (h : Like A B s₁ s₂) (file : String) :
    Like A B (s₁.closeFrame file) (s₂.closeFrame file) :=
  h.setScope file (by rw [Scope.blur_pop, Scope.blur_pop, h.scopes])

theorem modify (h : Like A B s₁ s₂) (id : NodeId) {change : ProgramNode → ProgramNode}
    (hcode : ∀ n, (change n).unmarked = n.unmarked)
    (hkinds : Arena.SameOrOld ProgramNode.callKind A B (s₁.arena.modify id change)
      (s₂.arena.modify id change))
    (hcallees : Arena.SameOrOld ProgramNode.callee A B (s₁.arena.modify id change)
      (s₂.arena.modify id change))
    (hassigned : ∀ a, Arena.AssignedIn A a → Arena.AssignedIn A (a.modify id change)) :
    Like A B (s₁.updateNode id change) (s₂.updateNode id change) where
  keyed := h.keyed
  scopes := h.scopes
  requiring := h.requiring
  code₁ := (funext (s₁.arena.unmarked_modify id hcode)).trans h.code₁
  code₂ := (funext (s₂.arena.unmarked_modify id hcode)).trans h.code₂
  kinds := hkinds
  callees := hcallees
  assigned₁ := hassigned _ h.assigned₁
  assigned₂ := hassigned _ h.assigned₂

theorem setCallKind (h : Like A B s₁ s₂) (id : NodeId) (kind : CallKind)
    (hkind : kind = .assignment → A.name id = "<operator>.assignment") :
    Like A B (s₁.updateNode id fun n => { n with callKind := some kind })
      (s₂.updateNode id fun n => { n with callKind := some kind }) := by
  refine h.modify id (fun _ => rfl) ?_ ?_ ?_
  · exact h.kinds.set h.code id fun _ => rfl
  · exact h.callees.keep id fun _ => rfl
  · exact fun a ha => ha.set id fun _ => ⟨kind, rfl, hkind⟩

theorem note (h : Like A B s₁ s₂) (i : Inlining) (inner : BehaviorGraph) (call : NodeId) :
    Like A B (s₁.updateNode call (i.note inner)) (s₂.updateNode call (i.note inner)) := by
  refine h.modify call (i.unmarked_note inner) ?_ ?_ ?_
  · cases i with
    | localModule => exact h.kinds.set h.code call fun _ => rfl
    | _ => exact h.kinds.keep call fun _ => rfl
  · cases i with
    | function => exact h.callees.set h.code call fun _ => rfl
    | localModule => exact h.callees.set h.code call fun _ => rfl
    | _ => exact h.callees.keep call fun _ => rfl
  · cases i with
    | localModule => exact fun a ha => ha.set call fun _ => ⟨.localModuleCall, rfl, nofun⟩
    | _ => exact fun a ha => ha.congr (a.mark_modify_of_keep call fun _ => rfl)

theorem markAnalyzed (h : Like A B s₁ s₂) (unit : NodeId) :
    Like A B (s₁.markAnalyzed unit) (s₂.markAnalyzed unit) :=
  h.view (sameView_markAnalyzed s₁ unit) (sameView_markAnalyzed s₂ unit)

theorem enter (h : Like A B s₁ s₂) (i : Inlining) : Like A B (i.enter s₁) (i.enter s₂) := by
  cases i with
  | program unit file =>
    refine markAnalyzed ?_ unit.id
    exact { h with requiring := congrArg (file :: ·) h.requiring }
  | _ => exact (h.openFrame ..).markAnalyzed _

theorem leave (h : Like A B s₁ s₂) (i : Inlining) : Like A B (i.leave s₁) (i.leave s₂) := by
  cases i with
  | program unit file => exact { h with requiring := congrArg List.tail h.requiring }
  | _ => exact h.closeFrame _

end Like

end BuildState

/-! ### Graphs -/

namespace BehaviorGraph
variable {settled : Prop} {fixed fixed' : NodeId → Prop} {g₁ g₂ h₁ h₂ : BehaviorGraph}

/-- Whether two graphs have the same nodes and the same edges into some of them, and under a
condition are the same altogether. -/
structure Like (settled : Prop) (fixed : NodeId → Prop) (g₁ g₂ : BehaviorGraph) : Prop where
  rest : g₁.withoutEdges = g₂.withoutEdges
  edges : ∀ a b, fixed b → g₁.tags? a b = g₂.tags? a b
  same : settled → g₁ = g₂
  once₁ : g₁.edges.keys.Nodup
  once₂ : g₂.edges.keys.Nodup

namespace Like

theorem start (id : NodeId) : Like settled fixed { entrance := id } { entrance := id } :=
  ⟨rfl, fun _ _ _ => rfl, fun _ => rfl, List.nodup_nil, List.nodup_nil⟩

theorem mono (h : Like settled fixed g₁ g₂) (hfixed : ∀ t, fixed' t → fixed t) :
    Like settled fixed' g₁ g₂ :=
  { h with edges := fun a b hb => h.edges a b (hfixed b hb) }

theorem nodes (h : Like settled fixed g₁ g₂) : g₁.nodes = g₂.nodes :=
  show g₁.withoutEdges.nodes = g₂.withoutEdges.nodes from congrArg BehaviorGraph.nodes h.rest

theorem returns (h : Like settled fixed g₁ g₂) : g₁.returns = g₂.returns :=
  show g₁.withoutEdges.returns = g₂.withoutEdges.returns from
    congrArg BehaviorGraph.returns h.rest

theorem entrance (h : Like settled fixed g₁ g₂) : g₁.entrance = g₂.entrance :=
  show g₁.withoutEdges.entrance = g₂.withoutEdges.entrance from
    congrArg BehaviorGraph.entrance h.rest

/-- Edges into a node that is left open need not be the same. -/
theorem into (h : Like settled fixed g₁ g₂) {t : NodeId} (ht : ¬ fixed t) (m₁ : g₁.MoreInto t h₁)
    (m₂ : g₂.MoreInto t h₂) (hsame : settled → h₁ = h₂) : Like settled fixed h₁ h₂ where
  rest := m₁.rest.trans (h.rest.trans m₂.rest.symm)
  edges a b hb := by
    have hne : b ≠ t := fun he => ht (he ▸ hb)
    rw [m₁.elsewhere a b hne, m₂.elsewhere a b hne, h.edges a b hb]
  same := hsame
  once₁ := m₁.once h.once₁
  once₂ := m₂.once h.once₂

theorem addEdge (h : Like settled fixed g₁ g₂) (s t : NodeId) (tags : List String) :
    Like settled fixed (g₁.addEdge s t tags) (g₂.addEdge s t tags) where
  rest := h.rest
  edges a b hb := by
    rw [tags?_addEdge, tags?_addEdge]
    split
    · next hst =>
      obtain ⟨rfl, rfl⟩ := hst
      rw [h.edges a b hb]
    · exact h.edges a b hb
  same hs := by rw [h.same hs]
  once₁ := Table.nodup_insert _ _ _ h.once₁
  once₂ := Table.nodup_insert _ _ _ h.once₂

theorem linkFrom (h : Like settled fixed g₁ g₂) (former : Option NodeId) (t : NodeId)
    (tags : List String) :
    Like settled fixed (g₁.linkFrom former t tags) (g₂.linkFrom former t tags) := by
  cases former with
  | none => exact h
  | some s => exact h.addEdge s t tags

theorem linkIncoming (h : Like settled fixed g₁ g₂) (u : CodeUnit) (former : Option NodeId)
    (t : NodeId) : Like settled fixed (g₁.linkIncoming u former t) (g₂.linkIncoming u former t) :=
  h.linkFrom former t _

theorem linkName (h : Like settled fixed g₁ g₂) (u : CodeUnit) (source : Option NodeId) (t : NodeId)
    (name : String) :
    Like settled fixed (g₁.linkName u source t name) (g₂.linkName u source t name) := by
  cases source with
  | none => exact h
  | some s => exact h.addEdge s t _

/-- What is substituted for a call depends on its marks. -/
theorem substituteReturns (h : Like settled fixed g₁ g₂) {n₁ n₂ : ProgramNode}
    (hn : n₁.Like settled n₂) {t : NodeId} (ht : ¬ fixed t) (tags : List String) :
    Like settled fixed (g₁.substituteReturns n₁ t tags) (g₂.substituteReturns n₂ t tags) := by
  refine h.into ht (g₁.moreInto_substituteReturns ..) (g₂.moreInto_substituteReturns ..)
    fun hs => ?_
  calc g₁.substituteReturns n₁ t tags = g₁.substituteReturns n₁.asCall t tags := rfl
    _ = g₂.substituteReturns n₂.asCall t tags := by rw [h.same hs, hn.call hs]

theorem linkResolved (h : Like settled fixed g₁ g₂) {n₁ n₂ : ProgramNode} (hn : n₁.Like settled n₂)
    {t : NodeId} (ht : ¬ fixed t) (tags : List String) :
    Like settled fixed (g₁.linkResolved n₁ t tags) (g₂.linkResolved n₂ t tags) := by
  refine h.into ht (g₁.moreInto_linkResolved ..) (g₂.moreInto_linkResolved ..) fun hs => ?_
  calc g₁.linkResolved n₁ t tags = g₁.linkResolved n₁.asCall t tags := rfl
    _ = g₂.linkResolved n₂.asCall t tags := by rw [h.same hs, hn.call hs]

theorem ensureEdge (h : Like settled fixed g₁ g₂) {t : NodeId} (ht : ¬ fixed t) (s : NodeId)
    (tags : List String) :
    Like settled fixed (g₁.ensureEdge s t tags) (g₂.ensureEdge s t tags) :=
  h.into ht (g₁.moreInto_ensureEdge ..) (g₂.moreInto_ensureEdge ..) fun hs => by rw [h.same hs]

theorem addNode (h : Like settled fixed g₁ g₂) (id : NodeId) :
    Like settled fixed (g₁.addNode id) (g₂.addNode id) := by
  have hmem : id ∈ g₁.nodes ↔ id ∈ g₂.nodes := by rw [h.nodes]
  by_cases hid : id ∈ g₂.nodes
  · rwa [BehaviorGraph.addNode, if_pos (hmem.mpr hid), BehaviorGraph.addNode, if_pos hid]
  · rw [BehaviorGraph.addNode, if_neg (mt hmem.mp hid), BehaviorGraph.addNode, if_neg hid]
    refine ⟨?_, h.edges, fun hs => by rw [h.same hs], h.once₁, h.once₂⟩
    simp only [withoutEdges, h.entrance, h.returns, h.nodes]

theorem addReturn (h : Like settled fixed g₁ g₂) (id : NodeId) :
    Like settled fixed (g₁.addReturn id) (g₂.addReturn id) := by
  have hmem : id ∈ g₁.returns ↔ id ∈ g₂.returns := by rw [h.returns]
  by_cases hid : id ∈ g₂.returns
  · rwa [BehaviorGraph.addReturn, if_pos (hmem.mpr hid), BehaviorGraph.addReturn, if_pos hid]
  · rw [BehaviorGraph.addReturn, if_neg (mt hmem.mp hid), BehaviorGraph.addReturn, if_neg hid]
    refine ⟨?_, h.edges, fun hs => by rw [h.same hs], h.once₁, h.once₂⟩
    simp only [withoutEdges, h.entrance, h.returns, h.nodes]

theorem foldl {α : Type} {step₁ step₂ : BehaviorGraph → α → BehaviorGraph}
    (hstep : ∀ {g₁ g₂} x, Like settled fixed g₁ g₂ → Like settled fixed (step₁ g₁ x) (step₂ g₂ x))
    (xs : List α) (h : Like settled fixed g₁ g₂) :
    Like settled fixed (xs.foldl step₁ g₁) (xs.foldl step₂ g₂) := by
  induction xs generalizing g₁ g₂ with
  | nil => exact h
  | cons x rest ih => exact ih (hstep x h)

theorem join (h : Like settled fixed g₁ g₂) (hi : Like settled fixed h₁ h₂) :
    Like settled fixed (g₁.join h₁) (g₂.join h₂) where
  rest := by
    rw [withoutEdges_join, withoutEdges_join, h.rest, h.nodes, hi.nodes, hi.entrance]
  edges a b hb := by
    by_cases hin : h₂.entrance ∈ g₂.nodes
    · have hin₁ : h₁.entrance ∈ g₁.nodes := by rwa [h.nodes, hi.entrance]
      rw [BehaviorGraph.join, if_pos (by simpa [contains] using hin₁), BehaviorGraph.join,
        if_pos (by simpa [contains] using hin)]
      exact h.edges a b hb
    · have hin₁ : h₁.entrance ∉ g₁.nodes := by rwa [h.nodes, hi.entrance]
      rw [tags?_join hi.once₁ hin₁, tags?_join hi.once₂ hin, h.edges a b hb, hi.edges a b hb]
  same hs := by rw [h.same hs, hi.same hs]
  once₁ := nodup_join h₁ h.once₁
  once₂ := nodup_join h₂ h.once₂

end Like

end BehaviorGraph

end PackageVet

import PackageVet.Build.Walk
import PackageVet.Proofs.Build.Graph
import PackageVet.Proofs.Build.Package

/-! What every step of a build leaves as it is.

A step declares names, marks nodes, notes modules that were refused, and puts units in. A relation
between states that allows these (`Stable`) therefore holds between the state before and the state
after every step, failed or not; the graph of a step that succeeds has grown out of the graph it was
given (`Keeps`). There is one lemma for each step, and the last ones are about whole builds
(`keeps_walk`, `leaves_buildWithin`). What comes before a unit is put in needs less of the relation
(`Shallow`), and the least is needed for names (`Quiet`).

A build marks nodes but keeps what their exports say of them (`stable_sameCode`). -/
namespace PackageVet

/-- Whether a relation allows what can be noted of a node without saying what kind of call it is or
what was put in at it. -/
structure Quiet (P : BuildState → BuildState → Prop) : Prop where
  refl : ∀ s, P s s
  trans : ∀ {a b c}, P a b → P b c → P a c
  note : ∀ s id change, (∀ n : ProgramNode, (change n).unmarked = n.unmarked ∧
    (change n).callKind = n.callKind ∧ (change n).callee = n.callee) → P s (s.updateNode id change)
  refuse : ∀ (s : BuildState) module_, P s { s with unregistered := module_ :: s.unregistered }

/-- Whether a relation allows all that a build does to its state before it puts a unit in. -/
structure Shallow (P : BuildState → BuildState → Prop) : Prop extends Quiet P where
  declare : ∀ s i, P s (s.declare i)
  kind : ∀ s id kind, P s (s.updateNode id fun n => { n with callKind := some kind })

/-- Whether a relation allows all that a build does to its state. -/
structure Stable (P : BuildState → BuildState → Prop) : Prop extends Shallow P where
  /-- A unit that was put in at a call is never forgotten. -/
  mark : ∀ s id change, (∀ n : ProgramNode, (change n).unmarked = n.unmarked ∧
    (n.callee.isSome → (change n).callee.isSome)) → P s (s.updateNode id change)
  /-- What is opened for a unit is closed after it. -/
  inline : ∀ (i : Inlining) s s', P (i.enter s) s' → P s (i.leave s')
  kind := fun s id _ => mark s id _ fun _ => ⟨rfl, fun h => h⟩

@[simp] theorem BuildState.arena_markAnalyzed (s : BuildState) (unit : NodeId) :
    (s.markAnalyzed unit).arena = s.arena := by
  unfold markAnalyzed
  split <;> rfl

@[simp] theorem BuildState.requiring_markAnalyzed (s : BuildState) (unit : NodeId) :
    (s.markAnalyzed unit).requiring = s.requiring := by
  unfold markAnalyzed
  split <;> rfl

@[simp] theorem Inlining.arena_enter (i : Inlining) (s : BuildState) :
    (i.enter s).arena = s.arena := by
  cases i <;> exact BuildState.arena_markAnalyzed _ _

@[simp] theorem Inlining.arena_leave (i : Inlining) (s : BuildState) :
    (i.leave s).arena = s.arena := by
  cases i <;> rfl

theorem Inlining.unmarked_note (i : Inlining) (inner : BehaviorGraph) (n : ProgramNode) :
    (i.note inner n).unmarked = n.unmarked := by
  cases i <;> rfl

theorem Inlining.isSome_callee_note (i : Inlining) (inner : BehaviorGraph) {n : ProgramNode}
    (h : n.callee.isSome) : (i.note inner n).callee.isSome := by
  cases i with
  | function => rfl
  | localModule => rfl
  | lambda => exact h
  | program => exact h

namespace Building
variable {σ α β : Type} {P : BuildState → BuildState → Prop}

/-- Whether a step leaves the state as a relation says, failed or not, and gives only what a
predicate allows. -/
structure Keeps (P : BuildState → BuildState → Prop) (m : Building σ α) (Q : α → Prop) :
    Prop where
  state : ∀ s services, P s (m.run (s, services)).2.1
  value : ∀ s services a, (m.run (s, services)).1 = .ok a → Q a

theorem Keeps.state_of_run {m : Building σ α} {Q : α → Prop} {s after : BuildState × σ}
    {r : Except AnalysisError α} (hm : Keeps P m Q) (h : m.run s = (r, after)) :
    P s.1 after.1 := by
  have hstate := hm.state s.1 s.2
  rwa [h] at hstate

/-- Whether a step leaves the state as a relation says. -/
abbrev Leaves (P : BuildState → BuildState → Prop) (m : Building σ α) : Prop :=
  Keeps P m fun _ => True

/-! ### Rules -/

/-- A request changes the services alone. -/
theorem run_ask (request : Request σ α) (s : BuildState) (services : σ) :
    (ask request).run (s, services) =
      match request.run services with
      | (.ok a, services') => (.ok a, s, services')
      | (.error e, services') => (.error (.service e), s, services') := by
  have hrun : (ask request).run (s, services) =
      (match request.run services with
        | (.ok value, s') =>
          (do modifyThe (BuildState × σ) fun t => (t.1, s'); pure value : Building σ α)
        | (.error e, s') =>
          (do modifyThe (BuildState × σ) fun t => (t.1, s'); throw (AnalysisError.service e))).run
        (s, services) := rfl
  rw [hrun]
  rcases request.run services with ⟨e | a, services'⟩ <;> rfl

theorem run_lookup?_bind (file name : String) (line : Nat) (next : Option Identifier → Building σ β)
    (s : BuildState) (services : σ) :
    (lookup? file name line >>= next).run (s, services) =
      (next (s.lookup? file name line)).run (s, services) := rfl

theorem run_change_bind (f : BuildState → BuildState) (next : PUnit → Building σ β)
    (s : BuildState) (services : σ) :
    (change f >>= next).run (s, services) = (next ⟨⟩).run (f s, services) := rfl

theorem run_state_bind (next : BuildState → Building σ β) (s : BuildState) (services : σ) :
    (state >>= next).run (s, services) = (next s).run (s, services) := rfl

/-- Arguments add edges, and change nothing else. -/
theorem run_connectArguments_bind (c : BuildContext σ) (u : CodeUnit) (node : ProgramNode)
    (qualifier : Option String) (g : BehaviorGraph) (next : BehaviorGraph → Building σ β)
    (s : BuildState) (services : σ) :
    ∃ g', (connectArguments c u node qualifier g >>= next).run (s, services) =
      (next g').run (s, services) := ⟨_, rfl⟩

section Rules
variable (hP : Quiet P) {m : Building σ α} {next : α → Building σ β} {Q : α → Prop} {R : β → Prop}
include hP

theorem keeps_pure {a : α} (h : Q a) : Keeps P (pure a : Building σ α) Q :=
  ⟨fun s _ => hP.refl s, fun _ _ _ ha => by cases ha; exact h⟩

theorem leaves_pure (a : α) : Leaves P (pure a : Building σ α) := keeps_pure hP trivial

theorem keeps_throw (e : AnalysisError) : Keeps P (throw e : Building σ α) Q :=
  ⟨fun s _ => hP.refl s, fun _ _ _ ha => by cases ha⟩

theorem Keeps.bind (hm : Keeps P m Q) (hnext : ∀ a, Q a → Keeps P (next a) R) :
    Keeps P (m >>= next) R := by
  constructor
  · intro s services
    have hs := hm.state s services
    have hq := hm.value s services
    rw [Effect.run_bind]
    rcases hrun : m.run (s, services) with ⟨x | a, s₁, services₁⟩ <;> rw [hrun] at hs hq
    · exact hs
    · exact hP.trans hs ((hnext a (hq a rfl)).state s₁ services₁)
  · intro s services b hb
    have hq := hm.value s services
    rw [Effect.run_bind] at hb
    rcases hrun : m.run (s, services) with ⟨x | a, s₁, services₁⟩ <;> rw [hrun] at hb hq
    · cases hb
    · exact (hnext a (hq a rfl)).value s₁ services₁ b hb

omit hP in
theorem Keeps.mono {R : α → Prop} (hm : Keeps P m Q) (h : ∀ a, Q a → R a) : Keeps P m R :=
  ⟨hm.state, fun s services a ha => h a (hm.value s services a ha)⟩

omit hP in
theorem Keeps.and {R : α → Prop} (hm : Keeps P m Q) (hm' : Keeps P m R) :
    Keeps P m fun a => Q a ∧ R a :=
  ⟨hm.state, fun s services a ha => ⟨hm.value s services a ha, hm'.value s services a ha⟩⟩

theorem leaves_ask (request : Request σ α) : Leaves P (ask request) := by
  refine ⟨fun s services => ?_, fun _ _ _ _ => trivial⟩
  rw [run_ask]
  rcases request.run services with ⟨e | a, services'⟩ <;> exact hP.refl s

theorem leaves_state : Leaves P (state : Building σ BuildState) :=
  ⟨fun s _ => hP.refl s, fun _ _ _ _ => trivial⟩

omit hP in
theorem leaves_change {f : BuildState → BuildState} (h : ∀ s, P s (f s)) :
    Leaves P (change f : Building σ PUnit) :=
  ⟨fun s _ => h s, fun _ _ _ _ => trivial⟩

theorem leaves_node? (id : NodeId) : Leaves P (node? id : Building σ _) :=
  (leaves_state hP).bind hP fun _ _ => leaves_pure hP _

theorem leaves_lookup? (file name : String) (line : Nat) :
    Leaves P (lookup? file name line : Building σ _) :=
  (leaves_state hP).bind hP fun _ _ => leaves_pure hP _

theorem leaves_check (c : BuildContext σ) : Leaves P (check c) :=
  ⟨fun s _ => hP.refl s, fun _ _ _ _ => trivial⟩

end Rules

/-! ### Questions and marks -/

section Marks
variable (hP : Quiet P) (c : BuildContext σ)
include hP

theorem leaves_markSensitive (id : NodeId) (categories : List Category) :
    Leaves P (markSensitive id categories : Building σ PUnit) := by
  unfold markSensitive
  split
  · exact leaves_pure hP _
  · exact leaves_change fun s => hP.note s id _ fun _ => ⟨rfl, rfl, rfl⟩

theorem leaves_resolveCall (id : NodeId) (fullName : String) (derivation : Derivation) :
    Leaves P (resolveCall id fullName derivation : Building σ PUnit) :=
  leaves_change fun s => hP.note s id _ fun _ => ⟨rfl, rfl, rfl⟩

omit hP in
theorem leaves_setCallKind (hP : Shallow P) (id : NodeId) (kind : CallKind) :
    Leaves P (setCallKind id kind : Building σ PUnit) :=
  leaves_change fun s => hP.kind s id kind

theorem leaves_classify (module_ : String) : Leaves P (classify c module_) :=
  leaves_ask hP _

theorem leaves_sensitiveCall (qualifier call : String) (derivation : Derivation)
    (hint : Option Category) : Leaves P (sensitiveCall c qualifier call derivation hint) :=
  leaves_ask hP _

theorem leaves_register (module_ : String) : Leaves P (register c module_) := by
  unfold register
  refine (leaves_state hP).bind hP fun s _ => ?_
  split
  · exact leaves_pure hP _
  · refine Keeps.bind (Q := fun _ => True) hP ?_ fun registered _ => ?_
    · refine ⟨fun s services => ?_, fun _ _ _ _ => trivial⟩
      rw [ExceptT.run_mk]
      dsimp only
      split <;> exact hP.refl s
    · cases registered with
      | true => exact leaves_pure hP _
      | false =>
        exact (leaves_change fun s => hP.refuse s module_).bind hP fun _ _ => leaves_pure hP _

theorem leaves_markKnown (node : ProgramNode) (qualifier call fullName : String)
    (derivation : Derivation) : Leaves P (markKnown c node qualifier call fullName derivation) :=
  (leaves_sensitiveCall hP c ..).bind hP fun _ _ =>
    (leaves_resolveCall hP ..).bind hP fun _ _ => leaves_markSensitive hP ..

theorem leaves_markHinted (node : ProgramNode) (found : Identifier) (qualifier : String) :
    Leaves P (markHinted c node found qualifier) := by
  unfold markHinted
  split
  · refine (leaves_sensitiveCall hP c ..).bind hP fun categories _ => ?_
    split
    · exact leaves_pure hP _
    · exact (leaves_resolveCall hP ..).bind hP fun _ _ => leaves_markSensitive hP ..
  · exact leaves_pure hP _

theorem leaves_builtinMember (node : ProgramNode) (qualifier : String) :
    Leaves P (builtinMember c node qualifier) := by
  unfold builtinMember
  refine (leaves_classify hP c _).bind hP fun class_ _ => ?_
  split
  · exact leaves_markKnown hP c ..
  · exact leaves_pure hP _

theorem leaves_nestedKnown (node : ProgramNode) (inner : String) (found : Identifier) :
    Leaves P (nestedKnown c node inner found) := by
  unfold nestedKnown
  split
  · split
    · exact leaves_markKnown hP c ..
    · exact leaves_pure hP _
  · split
    · exact leaves_markKnown hP c ..
    · exact leaves_markHinted hP c ..
    · exact leaves_pure hP _
  · exact leaves_pure hP _

end Marks

/-! ### Assignments -/

section Assignments
variable (hP : Quiet P) (c : BuildContext σ)

section Questions
include hP

theorem leaves_classifyInto (module_ : String) (i : Identifier) :
    Leaves P (classifyInto c module_ i) := by
  unfold classifyInto
  refine (leaves_classify hP c _).bind hP fun class_ _ => ?_
  cases class_ with
  | builtin => exact leaves_pure hP _
  | thirdParty => exact leaves_pure hP _
  | unknown => exact (leaves_register hP c _).bind hP fun _ _ => leaves_pure hP _

theorem leaves_originInto (file module_ : String) (i : Identifier) :
    Leaves P (originInto c file module_ i) := by
  unfold originInto
  split
  · exact leaves_pure hP _
  · exact leaves_classifyInto hP c ..

theorem leaves_assignRequire (node : ProgramNode) (right : CodeNode) (i : Identifier) :
    Leaves P (assignRequire c node right i) := by
  unfold assignRequire
  split
  · exact (leaves_originInto hP c ..).bind hP fun _ _ => leaves_pure hP _
  · exact leaves_pure hP _

theorem leaves_constructOf (node : ProgramNode) (module_ property : String)
    (derivation : Derivation) (i : Identifier) :
    Leaves P (constructOf c node module_ property derivation i) :=
  (leaves_sensitiveCall hP c ..).bind hP fun _ _ =>
    (leaves_markSensitive hP ..).bind hP fun _ _ => leaves_pure hP _

end Questions

theorem moreInto_linkCallReturns (g : BehaviorGraph) (call : ProgramNode) (target : NodeId)
    (former : Option NodeId) (fallback : String) :
    g.MoreInto target (linkCallReturns g call target former fallback) := by
  unfold linkCallReturns
  split
  · exact g.moreInto_linkFrom former target _
  · exact g.moreInto_linkReturns _ target _

variable (u : CodeUnit) (node : ProgramNode) (former : Option NodeId) (right : CodeNode)
  (g : BehaviorGraph) (i : Identifier)
include hP

theorem keeps_assignField :
    Keeps P (assignField c u node right g i) fun r => g.MoreInto node.id r.1 := by
  unfold assignField
  split
  · exact keeps_pure hP (.refl _ g)
  · refine (leaves_lookup? hP ..).bind hP fun found? _ => ?_
    split
    · split <;> exact keeps_pure hP (g.moreInto_linkName u ..)
    · split
      · split
        · exact (leaves_originInto hP c ..).bind hP fun _ _ => keeps_pure hP (.refl _ g)
        · exact keeps_pure hP (.refl _ g)
      · exact keeps_pure hP (.refl _ g)

theorem keeps_assignReturned :
    Keeps P (assignReturned node former right g i : Building σ _)
      fun r => g.MoreInto node.id r.1 := by
  unfold assignReturned
  refine (leaves_node? hP _).bind hP fun call? _ => ?_
  split
  · exact keeps_pure hP (g.moreInto_linkFrom former ..)
  · split
    · exact keeps_pure hP (moreInto_linkCallReturns g ..)
    · exact keeps_pure hP (moreInto_linkCallReturns g ..)
    · exact keeps_pure hP (g.moreInto_linkFrom former ..)
    · exact keeps_pure hP (g.moreInto_linkFrom former ..)

theorem keeps_assignSum :
    Keeps P (assignSum u node former g : Building σ _) (g.MoreInto node.id) := by
  unfold assignSum
  split
  · dsimp only
    split
    · refine (leaves_node? hP _).bind hP fun source? _ => ?_
      split
      · exact keeps_pure hP (g.moreInto_linkResolved ..)
      · exact keeps_pure hP (g.moreInto_addEdge ..)
    · exact keeps_pure hP (.refl _ g)
  · exact keeps_pure hP (.refl _ g)

theorem keeps_assignCall :
    Keeps P (assignCall c u node former right g i) fun r => g.MoreInto node.id r.1 := by
  unfold assignCall
  split
  · exact (leaves_assignRequire hP c ..).bind hP fun _ _ =>
      keeps_pure hP (g.moreInto_linkIncoming ..)
  · exact (keeps_assignSum hP u node former g).bind hP fun _ hg => keeps_pure hP hg
  · exact (keeps_assignField hP c u node right g i).bind hP fun r hg =>
      keeps_pure hP (hg.trans (r.1.moreInto_linkIncoming ..))
  · exact (keeps_assignField hP c u node right g i).bind hP fun r hg =>
      keeps_pure hP (hg.trans (r.1.moreInto_linkIncoming ..))
  · exact keeps_assignReturned hP node former right g i

theorem keeps_constructNamed (className : String) :
    Keeps P (constructNamed c u node className g i) fun r => g.MoreInto node.id r.1 := by
  unfold constructNamed
  refine (leaves_lookup? hP ..).bind hP fun found? _ => ?_
  split
  · refine keeps_pure hP ?_
    dsimp only
    split
    · exact .refl _ g
    · exact g.moreInto_linkName ..
  · refine (leaves_classify hP c _).bind hP fun class_ _ => ?_
    split <;> exact keeps_pure hP (.refl _ g)

theorem keeps_constructMember (object property : String) :
    Keeps P (constructMember c u node object property g i) fun r => g.MoreInto node.id r.1 := by
  unfold constructMember
  refine (leaves_lookup? hP ..).bind hP fun found? _ => ?_
  split
  · split
    · refine (leaves_classify hP c _).bind hP fun class_ _ => ?_
      split
      · exact (leaves_constructOf hP c ..).bind hP fun _ _ =>
          keeps_pure hP (g.moreInto_linkName ..)
      · exact (leaves_constructOf hP c ..).bind hP fun _ _ =>
          keeps_pure hP (g.moreInto_linkName ..)
      · exact keeps_pure hP (g.moreInto_linkName ..)
    · exact keeps_pure hP (g.moreInto_linkName ..)
  · refine (leaves_classify hP c _).bind hP fun class_ _ => ?_
    split
    · exact (leaves_constructOf hP c ..).bind hP fun _ _ => keeps_pure hP (.refl _ g)
    · exact keeps_pure hP (.refl _ g)

theorem keeps_assignConstructed :
    Keeps P (assignConstructed c u node right g i) fun r => g.MoreInto node.id r.1 := by
  unfold assignConstructed
  split
  · exact keeps_constructNamed hP c u node g i _
  · exact keeps_constructMember hP c u node g i _ _
  · exact keeps_pure hP (.refl _ g)

theorem keeps_assignName :
    Keeps P (assignName u node right g i : Building σ _) fun r => g.MoreInto node.id r.1 := by
  unfold assignName
  refine (leaves_lookup? hP ..).bind hP fun found? _ => ?_
  split
  · exact keeps_pure hP (g.moreInto_linkName ..)
  · exact keeps_pure hP (.refl _ g)

theorem keeps_assignValue :
    Keeps P (assignValue c u node former right g i) fun r => g.MoreInto node.id r.1 := by
  have hg := g.moreInto_linkIncoming u former node.id
  unfold assignValue
  split
  · exact keeps_assignCall hP c u node former right g i
  · exact (keeps_assignName hP u node right _ i).mono fun _ h => hg.trans h
  · exact (keeps_assignConstructed hP c u node right _ i).mono fun _ h => hg.trans h
  · exact keeps_pure hP hg

omit hP in
theorem keeps_assignment (hP : Shallow P) :
    Keeps P (assignment c u node former g) (g.MoreInto node.id) := by
  unfold assignment
  split
  · refine (leaves_setCallKind hP ..).bind hP.toQuiet fun _ _ => ?_
    split
    · exact keeps_pure hP.toQuiet (g.moreInto_linkIncoming ..)
    · exact (keeps_assignValue hP.toQuiet c u node former _ g _).bind hP.toQuiet fun r hr =>
        (leaves_change fun s => hP.declare s r.2).bind hP.toQuiet fun _ _ =>
          keeps_pure hP.toQuiet hr
  · exact keeps_pure hP.toQuiet (g.moreInto_linkIncoming ..)

end Assignments

/-! ### Calls -/

theorem moreInto_linkArgument (s : BuildState) (u : CodeUnit) (call : NodeId) (g : BehaviorGraph)
    (name : String) (line : Nat) : g.MoreInto call (linkArgument s u call g name line) := by
  unfold linkArgument
  split
  · split
    · exact .refl _ g
    · exact g.moreInto_linkName ..
  · exact .refl _ g

theorem moreInto_connectArgument (c : BuildContext σ) (s : BuildState) (u : CodeUnit)
    (node : ProgramNode) (qualifier : Option String) (g : BehaviorGraph) (argument : CodeNode) :
    g.MoreInto node.id (connectArgument c s u node qualifier g argument) := by
  unfold connectArgument
  split
  · split
    · split
      · exact moreInto_linkArgument s u node.id g ..
      · exact .refl _ g
    · exact .refl _ g
  · refine BehaviorGraph.moreInto_foldl (fun g name => ?_) _ g
    split
    · exact .refl _ g
    · exact moreInto_linkArgument s u node.id g ..
  · exact .refl _ g

section Calls
variable (hP : Quiet P) (c : BuildContext σ) (u : CodeUnit) (node : ProgramNode)
  (g : BehaviorGraph)
include hP

theorem keeps_connectArguments (qualifier : Option String) :
    Keeps P (connectArguments c u node qualifier g) (g.MoreInto node.id) :=
  (leaves_state hP).bind hP fun s _ => keeps_pure hP
    (BehaviorGraph.moreInto_foldl (moreInto_connectArgument c s u node qualifier) _ g)

theorem leaves_functionCall (declaration : NodeId) :
    Leaves P (functionCall c node declaration) := by
  unfold functionCall
  split
  · refine (leaves_state hP).bind hP fun s _ => ?_
    split <;> exact leaves_pure hP _
  · exact leaves_pure hP _

theorem leaves_localModuleCall (module_ function : String) :
    Leaves P (localModuleCall c node module_ function) := by
  unfold localModuleCall
  dsimp only
  generalize (if Text.endsWith (Path.resolve node.file module_) ".js" then _ else _) = path
  split
  · refine (leaves_state hP).bind hP fun s _ => ?_
    split <;> exact leaves_pure hP _
  · exact leaves_pure hP _

theorem leaves_knownMember (found : Identifier) : Leaves P (knownMember c node found) := by
  unfold knownMember
  dsimp only
  split
  · split
    · exact leaves_localModuleCall hP c ..
    · split
      · exact (leaves_markKnown hP c ..).bind hP fun _ _ => leaves_pure hP _
      · split
        · exact (leaves_markKnown hP c ..).bind hP fun _ _ => leaves_pure hP _
        · exact leaves_pure hP _
  · split
    · exact (leaves_markHinted hP c ..).bind hP fun _ _ => leaves_pure hP _
    · exact (leaves_markKnown hP c ..).bind hP fun _ _ => leaves_pure hP _
    · exact leaves_pure hP _
  · exact leaves_pure hP _

theorem keeps_memberCall (object : String) :
    Keeps P (memberCall c u node object g) fun r => g.MoreInto node.id r.1 := by
  unfold memberCall
  refine (keeps_connectArguments hP c u node g _).bind hP fun g₁ hg => ?_
  refine (leaves_lookup? hP ..).bind hP fun found? _ => ?_
  split
  · next found =>
    have hlink := hg.trans (g₁.moreInto_linkName u found.node node.id object)
    split
    · exact keeps_pure hP hlink
    · exact (leaves_knownMember hP c node found).bind hP fun _ _ => keeps_pure hP hlink
  · exact (leaves_builtinMember hP c ..).bind hP fun _ _ => keeps_pure hP hg

theorem keeps_chainedCall (object inner : String) :
    Keeps P (chainedCall c u node object inner g) (g.MoreInto node.id) := by
  unfold chainedCall
  refine (keeps_connectArguments hP c u node g _).bind hP fun g₁ hg => ?_
  refine (leaves_lookup? hP ..).bind hP fun found? _ => ?_
  split
  · next found =>
    have hlink := hg.trans (g₁.moreInto_linkName u found.node node.id object)
    split
    · exact keeps_pure hP hlink
    · split
      · exact (leaves_markKnown hP c ..).bind hP fun _ _ => keeps_pure hP hlink
      · exact keeps_pure hP hlink
  · exact keeps_pure hP hg

theorem keeps_nestedMember (object inner : String) :
    Keeps P (nestedMember c u node object inner g) fun r => g.MoreInto node.id r.1 := by
  unfold nestedMember
  dsimp only
  split
  · exact keeps_pure hP (.refl _ g)
  · refine (leaves_lookup? hP ..).bind hP fun found? _ => ?_
    split
    · exact (leaves_knownMember hP c ..).bind hP fun _ _ => keeps_pure hP (g.moreInto_linkName ..)
    · split
      · exact keeps_pure hP (.refl _ g)
      · refine (keeps_connectArguments hP c u node g _).bind hP fun g₁ hg => ?_
        refine (leaves_lookup? hP ..).bind hP fun found? _ => ?_
        split
        · next found =>
          have hlink := hg.trans (g₁.moreInto_linkName u found.node node.id object)
          split
          · exact (leaves_nestedKnown hP c ..).bind hP fun _ _ => keeps_pure hP hlink
          · exact keeps_pure hP hlink
        · exact (leaves_builtinMember hP c ..).bind hP fun _ _ => keeps_pure hP hg

theorem leaves_require : Leaves P (require c node) := by
  unfold require
  split
  · exact leaves_pure hP _
  · refine (leaves_classify hP c _).bind hP fun class_ _ => ?_
    split
    · exact leaves_pure hP _
    · split
      · exact leaves_pure hP _
      · dsimp only
        split
        · exact leaves_pure hP _
        · refine (leaves_state hP).bind hP fun s _ => ?_
          split <;> exact leaves_pure hP _

theorem keeps_assignPlus : Keeps P (assignPlus c node g) g.MoreEdges := by
  unfold assignPlus
  split
  · refine (leaves_lookup? hP ..).bind hP fun found? _ => ?_
    split
    · exact keeps_pure hP (g.moreInto_addEdge ..).toMoreEdges
    · exact keeps_pure hP (.refl g)
  · exact keeps_pure hP (.refl g)

theorem keeps_formatString (former : Option NodeId) :
    Keeps P (formatString u node former g : Building σ _) (g.MoreInto node.id) := by
  unfold formatString
  split
  · refine (leaves_node? hP _).bind hP fun source? _ => ?_
    split
    · exact keeps_pure hP (g.moreInto_substituteReturns ..)
    · exact keeps_pure hP (g.moreInto_addEdge ..)
  · exact keeps_pure hP (.refl _ g)

end Calls

section Operations
variable (hP : Shallow P) (c : BuildContext σ) (u : CodeUnit) (node : ProgramNode)
  (g : BehaviorGraph)
include hP

theorem leaves_bareCall : Leaves P (bareCall c node) := by
  have hQ := hP.toQuiet
  unfold bareCall
  dsimp only
  refine (leaves_lookup? hQ ..).bind hQ fun found? _ => ?_
  split
  · refine (leaves_classify hQ c _).bind hQ fun class_ _ => ?_
    split
    · exact (leaves_markKnown hQ c ..).bind hQ fun _ _ => leaves_pure hQ _
    · exact leaves_pure hQ _
  · split
    · refine (leaves_setCallKind hP ..).bind hQ fun _ _ => ?_
      split
      · split
        · exact leaves_functionCall hQ c ..
        · exact leaves_pure hQ _
      · exact leaves_functionCall hQ c ..
      · exact leaves_pure hQ _
    · split
      · exact leaves_localModuleCall hQ c ..
      · refine (leaves_classify hQ c _).bind hQ fun class_ _ => ?_
        split
        · exact (leaves_markKnown hQ c ..).bind hQ fun _ _ => leaves_pure hQ _
        · exact (leaves_markKnown hQ c ..).bind hQ fun _ _ => leaves_pure hQ _
        · refine (leaves_register hQ c _).bind hQ fun registered _ => ?_
          split
          · exact (leaves_markKnown hQ c ..).bind hQ fun _ _ => leaves_pure hQ _
          · exact leaves_pure hQ _
    · refine (leaves_classify hQ c _).bind hQ fun class_ _ => ?_
      split
      · exact (leaves_resolveCall hQ ..).bind hQ fun _ _ =>
          (leaves_sensitiveCall hQ c ..).bind hQ fun _ _ =>
            (leaves_markSensitive hQ ..).bind hQ fun _ _ => leaves_pure hQ _
      · exact (leaves_resolveCall hQ ..).bind hQ fun _ _ =>
          (leaves_sensitiveCall hQ c ..).bind hQ fun _ _ =>
            (leaves_markSensitive hQ ..).bind hQ fun _ _ => leaves_pure hQ _
      · exact leaves_pure hQ _
    · exact leaves_pure hQ _

theorem keeps_invoke : Keeps P (invoke c u node g) fun r => g.MoreInto node.id r.1 := by
  have hQ := hP.toQuiet
  unfold invoke
  dsimp only
  refine (leaves_setCallKind hP ..).bind hQ fun _ _ => ?_
  split
  · exact (keeps_connectArguments hQ c u node g none).bind hQ fun g₁ hg =>
      (leaves_bareCall hP c node).bind hQ fun _ _ => keeps_pure hQ hg
  · split
    · exact keeps_pure hQ (.refl _ g)
    · exact keeps_memberCall hQ c u node g _
  · split
    · exact keeps_pure hQ (.refl _ g)
    · exact keeps_memberCall hQ c u node g _
  · split
    · exact (leaves_builtinMember hQ c ..).bind hQ fun _ _ => keeps_pure hQ (.refl _ g)
    · exact keeps_pure hQ (.refl _ g)
  · split
    · exact keeps_pure hQ (.refl _ g)
    · exact (keeps_chainedCall hQ c u node g _ _).bind hQ fun _ hg => keeps_pure hQ hg
  · split
    · exact keeps_pure hQ (.refl _ g)
    · exact keeps_nestedMember hQ c u node g _ _
  all_goals exact keeps_pure hQ (.refl _ g)

theorem keeps_operation (former : Option NodeId) :
    Keeps P (operation c u node former g) fun r => g.MoreEdges r.1 := by
  have hQ := hP.toQuiet
  have hincoming := (g.moreInto_linkIncoming u former node.id).toMoreEdges
  unfold operation
  dsimp only
  split
  · refine (keeps_assignment c u node former g hP).bind hQ fun g₁ hg => ?_
    split
    · exact keeps_pure hQ (hg.trans (g₁.moreInto_ensureEdge ..)).toMoreEdges
    · exact keeps_pure hQ hg.toMoreEdges
  · exact (keeps_assignPlus hQ c node g).bind hQ fun g₁ hg =>
      keeps_pure hQ (hg.trans (g₁.moreInto_linkIncoming ..).toMoreEdges)
  · exact (keeps_formatString hQ u node g former).bind hQ fun _ hg => keeps_pure hQ hg.toMoreEdges
  · split
    · exact (leaves_markSensitive hQ ..).bind hQ fun _ _ => keeps_pure hQ hincoming
    · exact keeps_pure hQ hincoming
  · exact (leaves_require hQ c node).bind hQ fun _ _ => keeps_pure hQ hincoming
  · split
    · exact (keeps_invoke hP c u node _).mono fun _ h =>
        ((g.moreInto_linkFrom former ..).trans h).toMoreEdges
    · exact keeps_pure hQ hincoming

omit hP in
/-- A call of a function or a method is looked at by its shape. -/
theorem operation_call (former : Option NodeId) (hname : isCallName node.name = true)
    (hrequire : node.name ≠ "require") :
    ∃ g', operation c u node former g = invoke c u node g' := by
  unfold operation
  dsimp only
  split
  case h_5 heq => exact absurd heq hrequire
  case h_6 => exact ⟨_, if_pos hname⟩
  all_goals
    next heq =>
      rw [heq] at hname
      exact absurd hname (by decide)

end Operations

/-! ### Walks -/

theorem moreInto_revisit (arena : Arena) (u : CodeUnit) (former current : NodeId)
    (g : BehaviorGraph) : g.MoreInto current (revisit arena u former current g) := by
  unfold revisit
  dsimp only
  split
  · split
    · exact g.moreInto_linkResolved ..
    · split
      · split
        · exact g.moreInto_linkResolved ..
        · split
          · exact (g.moreInto_substituteReturns ..).trans (BehaviorGraph.moreInto_addEdge ..)
          · exact g.moreInto_addEdge ..
      · exact g.moreInto_addEdge ..
  · exact g.moreInto_addEdge ..

theorem run_restoring (m : Building σ α) (restore : BuildState → BuildState) (s : BuildState × σ) :
    (restoring m restore).run s = ((m.run s).1, restore (m.run s).2.1, (m.run s).2.2) := by
  unfold restoring
  rfl

section Enclosing
variable (hP : Stable P)
include hP

/-- What is open for a unit is closed after the unit's own step, failed or not. -/
theorem Keeps.enclosed {m : Building σ α} {Q : α → Prop} (hm : Keeps P m Q) (i : Inlining) :
    Keeps P (do change i.enter; restoring m i.leave) Q :=
  ⟨fun s services => hP.inline i s _ (hm.state (i.enter s) services),
    fun s services => hm.value (i.enter s) services⟩

variable {nested : Nested σ} (hnested : ∀ id, Leaves P (nested id))
include hnested

theorem keeps_putIn (call : NodeId) (g : BehaviorGraph) (i? : Option Inlining) :
    Keeps P (putIn nested call g i?) g.PartOf := by
  cases i? with
  | none => exact keeps_pure hP.toQuiet (.refl g)
  | some i =>
    have hsplit : putIn nested call g (some i) = do
        let inner ← (do change i.enter; restoring (nested i.unit.id) i.leave)
        change fun s => s.updateNode call (i.note inner)
        return (g.addEdge call inner.entrance [i.tag]).join inner := rfl
    rw [hsplit]
    refine ((hnested i.unit.id).enclosed hP i).bind hP.toQuiet fun inner _ => ?_
    refine (leaves_change fun s => hP.mark s call _ ?_).bind hP.toQuiet fun _ _ => ?_
    · exact fun n => ⟨i.unmarked_note inner n, i.isSome_callee_note inner⟩
    · exact keeps_pure hP.toQuiet
        ((g.partOf_addEdge ..).trans (BehaviorGraph.partOf_join_left ..))

end Enclosing

section PutIn
variable {nested : Nested σ} {c : BuildContext σ} {u : CodeUnit} {E : Inlining → Prop}
  (hP : Shallow P)
  (hput : ∀ call g i?, (∀ i ∈ i?, E i) → Keeps P (putIn nested call g i?) g.PartOf)
  (hcalled : ∀ node former g, Keeps P (operation c u node former g) fun r => ∀ i ∈ r.2, E i)
  (hlambda : ∀ node, ∀ i ∈ lambdaArgument? c node, E i)
include hP hput hcalled hlambda

/-- Of the units that are put in, a visit needs to know only what becomes of the state and of the
graph. -/
theorem keeps_firstVisit_of (current : NodeId) (former : Option NodeId) (g : BehaviorGraph) :
    Keeps P (firstVisit c nested u current former g) g.PartOf := by
  have hQ := hP.toQuiet
  have hincoming := (g.moreInto_linkIncoming u former current).part
  unfold firstVisit
  refine (leaves_node? hQ _).bind hQ fun node? _ => ?_
  split
  · exact keeps_pure hQ (.refl g)
  · next node =>
    split
    · exact keeps_pure hQ (.refl g)
    · split
      · refine (leaves_change fun s => hP.note s current _ ?_).bind hQ fun _ _ => ?_
        · exact fun _ => ⟨rfl, rfl, rfl⟩
        · exact keeps_pure hQ ((g.partOf_addReturn current).trans
            (BehaviorGraph.moreInto_linkIncoming ..).part)
      · dsimp only
        split
        · exact (leaves_change fun s => hP.declare s _).bind hQ fun _ _ => keeps_pure hQ hincoming
        · exact keeps_pure hQ hincoming
      · have hop := (keeps_operation hP c u node g former).and (hcalled node former g)
        refine hop.bind hQ fun r hr => ?_
        refine (hput current r.1 r.2 hr.2).bind hQ fun g₁ hg₁ => ?_
        exact (hput current g₁ _ (hlambda node)).mono fun _ h => (hr.1.part.trans hg₁).trans h
      · exact keeps_pure hQ hincoming

theorem keeps_walk_of (steps : Nat) (visited : List NodeId) (stack : List (NodeId × Option NodeId))
    (g : BehaviorGraph) : Keeps P (walk c nested u steps visited stack g) g.PartOf := by
  have hQ := hP.toQuiet
  induction steps generalizing visited stack g with
  | zero =>
    cases stack with
    | nil => exact keeps_pure hQ (.refl g)
    | cons => exact keeps_throw hQ .unfinished
  | succ steps ih =>
    match stack with
    | [] => exact keeps_pure hQ (.refl g)
    | (current, former) :: stack =>
      unfold walk
      refine (leaves_check hQ c).bind hQ fun _ _ => ?_
      split
      · split
        · refine (leaves_state hQ).bind hQ fun s _ => ?_
          exact (ih _ _ _).mono fun _ h => (moreInto_revisit ..).part.trans h
        · exact ih _ _ _
      · refine (keeps_firstVisit_of hP hput hcalled hlambda ..).bind hQ fun g₁ hg₁ => ?_
        refine (leaves_state hQ).bind hQ fun s _ => ?_
        exact (ih _ _ _).mono fun _ h => ((g.partOf_addNode current).trans hg₁).trans h

end PutIn

section Walks
variable (hP : Stable P) {nested : Nested σ} (hnested : ∀ id, Leaves P (nested id))
  (c : BuildContext σ) (u : CodeUnit)
include hP hnested

theorem keeps_firstVisit (current : NodeId) (former : Option NodeId) (g : BehaviorGraph) :
    Keeps P (firstVisit c nested u current former g) g.PartOf :=
  keeps_firstVisit_of (E := fun _ => True) hP.toShallow
    (fun call g i? _ => keeps_putIn hP hnested call g i?)
    (fun _ _ _ => (keeps_operation hP.toShallow ..).mono fun _ _ _ _ => trivial)
    (fun _ _ _ => trivial) current former g

theorem keeps_walk (steps : Nat) (visited : List NodeId) (stack : List (NodeId × Option NodeId))
    (g : BehaviorGraph) : Keeps P (walk c nested u steps visited stack g) g.PartOf :=
  keeps_walk_of (E := fun _ => True) hP.toShallow
    (fun call g i? _ => keeps_putIn hP hnested call g i?)
    (fun _ _ _ => (keeps_operation hP.toShallow ..).mono fun _ _ _ _ => trivial)
    (fun _ _ _ => trivial) steps visited stack g

end Walks

/-- Whatever a relation that allows the steps of a build says, holds over every build. -/
theorem leaves_buildWithin (hP : Stable P) (c : BuildContext σ) (depth : Nat) (id : NodeId) :
    Leaves P (buildWithin c depth id) := by
  induction depth generalizing id with
  | zero => exact keeps_throw hP.toQuiet _
  | succ depth ih =>
    unfold buildWithin
    split
    · exact (keeps_walk hP ih c ..).mono fun _ _ => trivial
    · exact leaves_pure hP.toQuiet _

end Building

/-! ### The code stays -/

/-- Whether two states have the same code, and the same files are being required. -/
structure BuildState.SameCode (s s' : BuildState) : Prop where
  code : s'.arena.unmarked = s.arena.unmarked
  requiring : s'.requiring = s.requiring

theorem stable_sameCode : Stable BuildState.SameCode where
  refl s := ⟨rfl, rfl⟩
  trans h h' := ⟨h'.code.trans h.code, h'.requiring.trans h.requiring⟩
  note s id change h := ⟨funext (s.arena.unmarked_modify id fun n => (h n).1), rfl⟩
  refuse s _ := ⟨rfl, rfl⟩
  declare s i := ⟨rfl, rfl⟩
  mark s id change h := ⟨funext (s.arena.unmarked_modify id fun n => (h n).1), rfl⟩
  inline i s s' h := by
    obtain ⟨hcode, hrequiring⟩ := h
    rw [Inlining.arena_enter] at hcode
    refine ⟨by rw [Inlining.arena_leave, hcode], ?_⟩
    cases i with
    | program unit file =>
      -- the file that was opened is the first one again
      have hopen : s'.requiring = file :: s.requiring := by
        simpa [Inlining.enter, BuildState.openFile] using hrequiring
      simp [Inlining.leave, BuildState.closeFile, hopen]
    | _ =>
      simpa [Inlining.enter, Inlining.leave, BuildState.openFrame, BuildState.closeFrame,
        BuildState.setScope] using hrequiring

end PackageVet

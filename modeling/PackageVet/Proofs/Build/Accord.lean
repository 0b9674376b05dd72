import PackageVet.Proofs.Build.Moments
import PackageVet.Proofs.InStep

/-! Builds in step.

Two builds of one package go on from one state, next to services that may differ. An `Accord` says
what such builds need to stay in step: what holds between them, which modules are taken for the same,
and what may be put in. There is one lemma for each step, and the last ones are about walks
(`instep_firstVisit`, `instep_walk`). -/
namespace PackageVet

/-- Whether an identifier stands for a module or a part of one. -/
def Identifier.NamesModule (i : Identifier) : Prop :=
  i.kind = .require ∨ i.kind = .functionFromRequire

/-- The modules that the code asks for, or that it would ask for: the texts that calls are given
first. -/
def CodeGraph.asked (g : CodeGraph) : List String :=
  g.nodes.values.filterMap fun node => JavaScript.firstCallString? (node.code?.getD "")

theorem CodeGraph.mem_asked_of_child {g : CodeGraph} {id : NodeId} {node : CodeNode}
    {module_ : String} (h : node ∈ g.children id)
    (hcode : JavaScript.firstCallString? (node.code?.getD "") = some module_) :
    module_ ∈ g.asked := by
  unfold children sortedTargets at h
  rw [(Sorted.orderBy_perm _ _).mem_iff, targets, List.mem_filterMap] at h
  obtain ⟨⟨⟨source, target⟩, kinds⟩, -, hnode⟩ := h
  dsimp only at hnode
  split at hnode
  · exact List.mem_filterMap.mpr
      ⟨node, List.mem_map_of_mem (Table.mem_of_get? hnode), hcode⟩
  · cases hnode

/-- How two answers about the class of a module go together: they agree on whether the module is one
of the platform. -/
inductive ModuleClass.Near : ModuleClass → ModuleClass → Prop where
  | builtin : Near .builtin .builtin
  | other {k₁ k₂ : ModuleClass} : k₁ ≠ .builtin → k₂ ≠ .builtin → Near k₁ k₂

theorem ModuleClass.Near.refl (k : ModuleClass) : k.Near k := by
  by_cases h : k = .builtin
  · rw [h]
    exact .builtin
  · exact .other h h

open Building in
/-- What two builds in one context need to stay in step. -/
structure Accord {σ : Type} (c : BuildContext σ) where
  /-- What holds of the state and of both services. -/
  holds : BuildState → σ → σ → Prop
  /-- What holds of both services after a failure. -/
  fails : AnalysisError → σ → σ → Prop
  /-- Modules that are taken for the same on both sides. -/
  same : String → σ → σ → Prop
  /-- Files in which code stands. -/
  place : (file : String) → Prop
  /-- Functions that may be declared. -/
  declared : (file name : String) → Prop
  /-- Nodes that a walk may come to. -/
  visits : NodeId → Prop
  /-- Units that may be put in. -/
  enters : Inlining → Prop
  service : ∀ {s x y e}, holds s x y → fails (.service e) x y
  timeout : ∀ {s x y limit}, holds s x y → fails (.timeout limit) x y
  /-- The time is up on both sides or on none. -/
  time : ∀ s, Uniform (holds s) c.deadline.check
  mark : ∀ {s x y id change}, (∀ n : ProgramNode, (change n).unmarked = n.unmarked) →
    holds s x y → holds (s.updateNode id change) x y
  declare : ∀ {s x y} {i : Identifier}, i.declaration = none →
    (i.NamesModule → same (i.module?.getD "") x y) → holds s x y → holds (s.declare i) x y
  found : ∀ {s x y file name line i}, holds s x y → s.lookup? file name line = some i →
    (i.NamesModule → same (i.module?.getD "") x y) ∧ (i.declaration.isSome → declared file name)
  known : ∀ {s x y id node}, holds s x y → s.arena.get? id = some node → place node.file
  function : ∀ {s x y file name id u}, holds s x y → declared file name →
    c.index.get? id = some u → s.isOpen file name = false → enters (.function u file name)
  localModule : ∀ {s x y file name u}, holds s x y → c.index.named? name file = some u →
    s.isOpen file name = false → enters (.localModule u file name)
  program : ∀ {s x y file u}, holds s x y → c.index.program? file = some u →
    s.requiring.contains file = false → enters (.program u file)
  lambda : ∀ {s x y id node i}, holds s x y → visits id → s.arena.get? id = some node →
    node.kind = "CALL" → lambdaArgument? c node = some i → enters i
  sensitive : ∀ qualifier call derivation hint, InStep holds fails
    (sensitiveCall c qualifier call derivation hint)
    (sensitiveCall c qualifier call derivation hint) fun _ => holds
  /-- Whether a module is one of the platform is the same on both sides. -/
  platform : ∀ {s x y} module_, holds s x y →
    (∃ k₁ k₂ x' y', (c.knowledge.classify module_).run x = (.ok k₁, x') ∧
      (c.knowledge.classify module_).run y = (.ok k₂, y') ∧ k₁.Near k₂ ∧ holds s x' y' ∧
      (k₁ = .builtin → same module_ x' y')) ∨
    ∃ e x' y', (c.knowledge.classify module_).run x = (.error e, x') ∧
      (c.knowledge.classify module_).run y = (.error e, y') ∧ holds s x' y'
  /-- A module that is taken for the same has one class. -/
  recognize : ∀ module_, InStep (fun s x y => holds s x y ∧ same module_ x y) fails
    (classify c module_) (classify c module_)
    fun _ s x y => holds s x y ∧ same module_ x y
  registers : ∀ module_, InStep (fun s x y => holds s x y ∧ same module_ x y) fails
    (register c module_) (register c module_) fun _ => holds
  /-- A module that code asks for is taken for the same from then on. -/
  origin : ∀ {file module_} i, module_ ∈ c.code.asked → place file →
    c.sources.isLocalFile file module_ = false →
    InStep holds fails (classifyInto c module_ i) (classifyInto c module_ i) fun j s x y =>
      holds s x y ∧ same module_ x y ∧ j.declaration = i.declaration ∧ j.kind = i.kind
  localFile : ∀ {s x y file module_}, module_ ∈ c.code.asked → place file →
    c.sources.isLocalFile file module_ = true → holds s x y → same module_ x y

namespace Accord
open Building
variable {σ α β : Type} {c : BuildContext σ} (A : Accord c)

/-- Whether a step is in step with itself and keeps to an accord. -/
abbrev Keeps (m : Building σ α) (φ : α → Prop) : Prop :=
  InStep A.holds A.fails m m fun a s x y => A.holds s x y ∧ φ a

/-- Whether a name is fit to be declared. -/
def Fit (i : Identifier) (x y : σ) : Prop :=
  i.declaration = none ∧ (i.NamesModule → A.same (i.module?.getD "") x y)

/-- Whether a step is in step with itself and gives a name that is fit to be declared. -/
abbrev Names (m : Building σ (BehaviorGraph × Identifier)) : Prop :=
  InStep A.holds A.fails m m fun r s x y => A.holds s x y ∧ A.Fit r.2 x y

variable {A}

/-- A name that does not stand for a module. -/
theorem fit_of_value {i : Identifier} {x y : σ} (hdeclaration : i.declaration = none)
    (hkind : ¬ i.NamesModule) : A.Fit i x y := ⟨hdeclaration, fun h => absurd h hkind⟩

/-! ### Rules -/

section Rules
variable {m : Building σ α} {next₁ next₂ : α → Building σ β} {φ : α → Prop}
  {Q : β → BuildState → σ → σ → Prop}

theorem keeps_pure {a : α} (h : φ a) : A.Keeps (pure a) φ := .pure fun _ _ _ hs => ⟨hs, h⟩

theorem Keeps.bind (hm : A.Keeps m φ)
    (hnext : ∀ a, φ a → InStep A.holds A.fails (next₁ a) (next₂ a) Q) :
    InStep A.holds A.fails (m >>= next₁) (m >>= next₂) Q :=
  InStep.bind hm fun a => InStep.fact (hnext a)

theorem keeps_state : A.Keeps (state : Building σ _) fun _ => True :=
  ⟨fun hs => ⟨.ok _, _, _, _, rfl, rfl, hs, trivial⟩⟩

theorem instep_state : InStep A.holds A.fails (state : Building σ _) state
    fun t s x y => A.holds s x y ∧ t = s :=
  ⟨fun hs => ⟨.ok _, _, _, _, rfl, rfl, hs, rfl⟩⟩

theorem instep_change {P : BuildState → σ → σ → Prop} {f : BuildState → BuildState}
    (h : ∀ s x y, P s x y → A.holds (f s) x y) :
    InStep P A.fails (change f : Building σ PUnit) (change f) fun _ => A.holds :=
  ⟨fun hs => ⟨.ok ⟨⟩, _, _, _, rfl, rfl, h _ _ _ hs⟩⟩

theorem keeps_mark {id : NodeId} {f : ProgramNode → ProgramNode}
    (h : ∀ n, (f n).unmarked = n.unmarked) :
    A.Keeps (change fun s => s.updateNode id f) fun _ => True :=
  InStep.mono (instep_change fun _ _ _ hs => A.mark h hs) fun _ _ _ _ hs => ⟨hs, trivial⟩

theorem instep_node? (id : NodeId) : InStep A.holds A.fails (node? id : Building σ _) (node? id)
    fun node? s x y => A.holds s x y ∧ node? = s.arena.get? id :=
  ⟨fun hs => ⟨.ok _, _, _, _, rfl, rfl, hs, rfl⟩⟩

theorem keeps_node? (id : NodeId) : A.Keeps (node? id : Building σ _) fun _ => True :=
  (instep_node? id).mono fun _ _ _ _ hs => ⟨hs.1, trivial⟩

theorem instep_lookup? (file name : String) (line : Nat) :
    InStep A.holds A.fails (lookup? file name line : Building σ _) (lookup? file name line)
      fun found? s x y => A.holds s x y ∧ ∀ found ∈ found?,
        (found.NamesModule → A.same (found.module?.getD "") x y) ∧
        (found.declaration.isSome → A.declared file name) :=
  ⟨fun hs => ⟨.ok _, _, _, _, rfl, rfl, hs, fun _ h => A.found hs h⟩⟩

theorem keeps_lookup? (file name : String) (line : Nat) :
    A.Keeps (lookup? file name line : Building σ _) fun _ => True :=
  (instep_lookup? file name line).mono fun _ _ _ _ hs => ⟨hs.1, trivial⟩

theorem keeps_check : A.Keeps (check c) fun _ => True := by
  refine InStep.mono (Uniform.onSecond A.time fun {s x x' y' e} hrun hs => ?_)
    fun _ _ _ _ hs => ⟨hs, trivial⟩
  rcases c.deadline.check_cases x with ⟨z, hcheck⟩ | ⟨limit, z, -, hcheck⟩
  · cases hcheck.symm.trans hrun
  · cases hcheck.symm.trans hrun
    exact A.timeout hs

/-- A question of which only the answer "of the platform" counts. -/
theorem instep_test (module_ : String) {yes no : Building σ β}
    (hyes : InStep (fun s x y => A.holds s x y ∧ A.same module_ x y) A.fails yes yes Q)
    (hno : InStep A.holds A.fails no no Q) :
    InStep A.holds A.fails
      (classify c module_ >>= fun k => if k = .builtin then yes else no)
      (classify c module_ >>= fun k => if k = .builtin then yes else no) Q where
  run {s x y} hs := by
    rw [Effect.run_bind, Effect.run_bind, Building.classify, run_ask, run_ask]
    rcases A.platform module_ hs with
      ⟨k₁, k₂, x', y', hx, hy, hnear, hs', hsame⟩ | ⟨e, x', y', hx, hy, hs'⟩
    · rw [hx, hy]
      cases hnear with
      | builtin => exact hyes.run ⟨hs', hsame rfl⟩
      | other h₁ h₂ =>
        dsimp only
        rw [if_neg h₁, if_neg h₂]
        exact hno.run hs'
    · rw [hx, hy]
      exact ⟨_, _, _, _, rfl, rfl, A.service hs'⟩

/-- A question of which only the answer "of the platform" counts, and that only. -/
theorem keeps_test (module_ : String) {yes no : Building σ β} {φ : β → Prop}
    (hyes : A.Keeps yes φ) (hno : A.Keeps no φ) :
    A.Keeps (classify c module_ >>= fun k => if k = .builtin then yes else no) φ :=
  instep_test module_ (hyes.weaken fun _ _ _ hs => hs.1) hno

end Rules

/-! ### Marks -/

section Marks
variable (node : ProgramNode)

theorem keeps_markSensitive (id : NodeId) (categories : List Category) :
    A.Keeps (markSensitive id categories) fun _ => True := by
  unfold markSensitive
  split
  · exact keeps_pure trivial
  · exact keeps_mark fun _ => rfl

theorem keeps_resolveCall (id : NodeId) (fullName : String) (derivation : Derivation) :
    A.Keeps (resolveCall id fullName derivation) fun _ => True :=
  keeps_mark fun _ => rfl

theorem keeps_setCallKind (id : NodeId) (kind : CallKind) :
    A.Keeps (setCallKind id kind) fun _ => True :=
  keeps_mark fun _ => rfl

theorem keeps_sensitiveCall (qualifier call : String) (derivation : Derivation)
    (hint : Option Category) :
    A.Keeps (sensitiveCall c qualifier call derivation hint) fun _ => True :=
  (A.sensitive ..).mono fun _ _ _ _ hs => ⟨hs, trivial⟩

theorem keeps_markKnown (qualifier call fullName : String) (derivation : Derivation) :
    A.Keeps (markKnown c node qualifier call fullName derivation) fun _ => True :=
  (keeps_sensitiveCall ..).bind fun _ _ =>
    (keeps_resolveCall ..).bind fun _ _ => keeps_markSensitive ..

theorem keeps_markHinted (found : Identifier) (qualifier : String) :
    A.Keeps (markHinted c node found qualifier) fun _ => True := by
  unfold markHinted
  split
  · refine (keeps_sensitiveCall ..).bind fun _ _ => ?_
    split
    · exact keeps_pure trivial
    · exact (keeps_resolveCall ..).bind fun _ _ => keeps_markSensitive ..
  · exact keeps_pure trivial

theorem keeps_builtinMember (qualifier : String) :
    A.Keeps (builtinMember c node qualifier) fun _ => True :=
  keeps_test _ (keeps_markKnown node ..) (keeps_pure trivial)

theorem keeps_nestedKnown (inner : String) (found : Identifier) :
    A.Keeps (nestedKnown c node inner found) fun _ => True := by
  unfold nestedKnown
  split
  · split
    · exact keeps_markKnown node ..
    · exact keeps_pure trivial
  · split
    · exact keeps_markKnown node ..
    · exact keeps_markHinted node ..
    · exact keeps_pure trivial
  · exact keeps_pure trivial

end Marks

/-! ### Assignments -/

section Assignments
variable {u : CodeUnit} {node : ProgramNode} {former : Option NodeId} {right : CodeNode}
  {g : BehaviorGraph} {i : Identifier}

/-- A module that code asks for is taken for the same from then on, wherever it comes from. -/
theorem instep_originInto {file module_ : String} (i : Identifier) (hasked : module_ ∈ c.code.asked)
    (hplace : A.place file) :
    InStep A.holds A.fails (originInto c file module_ i) (originInto c file module_ i)
      fun j s x y => A.holds s x y ∧ A.same module_ x y ∧ j.declaration = i.declaration ∧
        j.kind = i.kind := by
  unfold originInto
  cases hlocal : c.sources.isLocalFile file module_ with
  | true => exact .pure fun _ _ _ hs => ⟨hs, A.localFile hasked hplace hlocal hs, rfl, rfl⟩
  | false => exact A.origin i hasked hplace hlocal

theorem instep_assignRequire {id : NodeId} (hright : right ∈ c.code.children id)
    (hplace : A.place node.file) (hi : i.declaration = none) (hkind : ¬ i.NamesModule) :
    InStep A.holds A.fails (assignRequire c node right i) (assignRequire c node right i)
      fun j s x y => A.holds s x y ∧ A.Fit j x y := by
  unfold assignRequire
  split
  · next module_ hcode =>
    refine (instep_originInto i (CodeGraph.mem_asked_of_child hright hcode) hplace).bind
      fun j => .pure fun _ _ _ hs => ?_
    exact ⟨hs.1, hs.2.2.1.trans hi, fun _ => hs.2.1⟩
  · exact .pure fun _ _ _ hs => ⟨hs, fit_of_value hi hkind⟩

theorem names_assignField (hplace : A.place node.file) (hi : i.declaration = none)
    (hkind : ¬ i.NamesModule) : A.Names (assignField c u node right g i) := by
  have hfit : ∀ x y, A.Fit i x y := fun _ _ => fit_of_value hi hkind
  unfold assignField
  split
  · exact .pure fun _ _ _ hs => ⟨hs, hfit ..⟩
  · next object rest hchildren =>
    refine (instep_lookup? ..).bind fun found? => ?_
    cases found? with
    | some found =>
      dsimp only
      split
      · next hrequire =>
        exact .pure fun _ _ _ hs => ⟨hs.1, hi, fun _ => (hs.2 found rfl).1 (.inl hrequire)⟩
      · exact .pure fun _ _ _ hs => ⟨hs.1, hfit ..⟩
    | none =>
      dsimp only
      split
      · split
        · next module_ hcode =>
          have hobject : object ∈ c.code.children right.id := hchildren ▸ List.mem_cons_self ..
          refine InStep.weaken (InStep.bind (instep_originInto _
            (CodeGraph.mem_asked_of_child hobject hcode) hplace) fun j => .pure ?_)
            fun _ _ _ hs => hs.1
          rintro s x y ⟨hs, hsame, hdeclaration, -⟩
          refine ⟨hs, ?_, fun _ => hsame⟩
          show j.declaration = none
          rw [hdeclaration]
          split <;> exact hi
        · exact .pure fun _ _ _ hs => ⟨hs.1, hfit ..⟩
      · exact .pure fun _ _ _ hs => ⟨hs.1, hfit ..⟩

theorem names_assignReturned (hi : i.declaration = none) (hkind : ¬ i.NamesModule) :
    A.Names (assignReturned node former right g i) := by
  unfold assignReturned
  refine (keeps_node? _).bind fun call? _ => ?_
  split
  · exact .pure fun _ _ _ hs => ⟨hs, fit_of_value hi hkind⟩
  · split
    · exact .pure fun _ _ _ hs => ⟨hs, fit_of_value hi (by simp [Identifier.NamesModule])⟩
    · exact .pure fun _ _ _ hs => ⟨hs, fit_of_value hi (by simp [Identifier.NamesModule])⟩
    · exact .pure fun _ _ _ hs => ⟨hs, fit_of_value hi (by simp [Identifier.NamesModule])⟩
    · exact .pure fun _ _ _ hs => ⟨hs, fit_of_value hi hkind⟩

theorem keeps_assignSum : A.Keeps (assignSum u node former g) fun _ => True := by
  unfold assignSum
  split
  · dsimp only
    split
    · refine (keeps_node? _).bind fun source? _ => ?_
      split <;> exact keeps_pure trivial
    · exact keeps_pure trivial
  · exact keeps_pure trivial

theorem names_assignCall {id : NodeId} (hright : right ∈ c.code.children id)
    (hplace : A.place node.file) (hi : i.declaration = none) (hkind : ¬ i.NamesModule) :
    A.Names (assignCall c u node former right g i) := by
  unfold assignCall
  split
  · exact (instep_assignRequire hright hplace hi hkind).bind fun _ => .pure fun _ _ _ hs => hs
  · exact keeps_assignSum.bind fun _ _ => .pure fun _ _ _ hs => ⟨hs, fit_of_value hi hkind⟩
  · exact (names_assignField hplace hi hkind).bind fun _ => .pure fun _ _ _ hs => hs
  · exact (names_assignField hplace hi hkind).bind fun _ => .pure fun _ _ _ hs => hs
  · exact names_assignReturned hi hkind

theorem names_constructNamed (className : String) (hi : i.declaration = none)
    (hkind : ¬ i.NamesModule) : A.Names (constructNamed c u node className g i) := by
  unfold constructNamed
  refine (instep_lookup? ..).bind fun found? => ?_
  cases found? with
  | some found =>
    refine .pure fun s x y hs => ⟨hs.1, ?_⟩
    have hfit : A.Fit i x y := fit_of_value hi hkind
    dsimp only
    split
    · next hrequire =>
      have hsame := (hs.2 found rfl).1 (.inl hrequire)
      split
      · exact ⟨hi, fun _ => hsame⟩
      · split
        · exact ⟨hi, fun _ => hsame⟩
        · exact hfit
    · split
      · exact fit_of_value hi (by simp [Identifier.NamesModule])
      · exact hfit
    · exact hfit
  | none =>
    refine InStep.weaken (instep_test className ?_ ?_) fun _ _ _ hs => hs.1
    · exact .pure fun _ _ _ hs => ⟨hs.1, hi, fun _ => hs.2⟩
    · exact .pure fun _ _ _ hs => ⟨hs, fit_of_value hi hkind⟩

theorem instep_constructOf (module_ property : String) (derivation : Derivation)
    (hi : i.declaration = none) :
    InStep A.holds A.fails (constructOf c node module_ property derivation i)
      (constructOf c node module_ property derivation i)
      fun j s x y => A.holds s x y ∧ A.Fit j x y :=
  (keeps_sensitiveCall ..).bind fun _ _ => (keeps_markSensitive ..).bind fun _ _ =>
    .pure fun _ _ _ hs => ⟨hs, fit_of_value hi (by simp [Identifier.NamesModule])⟩

theorem names_constructMember (object property : String) (hi : i.declaration = none)
    (hkind : ¬ i.NamesModule) : A.Names (constructMember c u node object property g i) := by
  have hof : ∀ (g : BehaviorGraph) module_ derivation, A.Names (do
      return (g, ← constructOf c node module_ property derivation i)) := fun _ _ _ =>
    (instep_constructOf _ _ _ hi).bind fun _ => .pure fun _ _ _ hs => hs
  unfold constructMember
  refine (instep_lookup? ..).bind fun found? => ?_
  cases found? with
  | some found =>
    dsimp only
    split
    · next hrequire =>
      refine InStep.weaken ((A.recognize _).bind fun class_ => ?_)
        fun _ _ _ hs => ⟨hs.1, (hs.2 found rfl).1 (.inl hrequire)⟩
      refine InStep.weaken ?_ fun _ _ _ hs => hs.1
      cases class_ with
      | builtin => exact hof ..
      | thirdParty => exact hof ..
      | unknown => exact .pure fun _ _ _ hs => ⟨hs, fit_of_value hi hkind⟩
    · exact .pure fun _ _ _ hs => ⟨hs.1, fit_of_value hi hkind⟩
  | none =>
    refine InStep.weaken (instep_test object ?_ ?_) fun _ _ _ hs => hs.1
    · exact (hof ..).weaken fun _ _ _ hs => hs.1
    · exact .pure fun _ _ _ hs => ⟨hs, fit_of_value hi hkind⟩

theorem names_assignConstructed (hi : i.declaration = none) (hkind : ¬ i.NamesModule) :
    A.Names (assignConstructed c u node right g i) := by
  unfold assignConstructed
  split
  · exact names_constructNamed _ hi hkind
  · exact names_constructMember _ _ hi hkind
  · exact .pure fun _ _ _ hs => ⟨hs, fit_of_value hi hkind⟩

theorem names_assignName (hi : i.declaration = none) (hkind : ¬ i.NamesModule) :
    A.Names (assignName u node right g i) := by
  unfold assignName
  refine (instep_lookup? ..).bind fun found? => ?_
  cases found? with
  | some found => exact .pure fun _ _ _ hs => ⟨hs.1, hi, (hs.2 found rfl).1⟩
  | none => exact .pure fun _ _ _ hs => ⟨hs.1, fit_of_value hi hkind⟩

theorem names_assignValue {id : NodeId} (hright : right ∈ c.code.children id)
    (hplace : A.place node.file) (hi : i.declaration = none) (hkind : ¬ i.NamesModule) :
    A.Names (assignValue c u node former right g i) := by
  unfold assignValue
  split
  · exact names_assignCall hright hplace hi hkind
  · exact names_assignName hi hkind
  · exact names_assignConstructed hi hkind
  · exact .pure fun _ _ _ hs => ⟨hs, fit_of_value hi hkind⟩

theorem keeps_assignment (hplace : A.place node.file) :
    A.Keeps (assignment c u node former g) fun _ => True := by
  unfold assignment
  split
  · next left right rest hchildren =>
    have hright : right ∈ c.code.children node.id := by simp [hchildren]
    refine (keeps_setCallKind ..).bind fun _ _ => ?_
    split
    · exact keeps_pure trivial
    · refine (names_assignValue hright hplace rfl (by simp [Identifier.NamesModule])).bind fun r => ?_
      refine (instep_change fun s x y hs => ?_).bind fun _ => .pure fun _ _ _ hs => ⟨hs, trivial⟩
      exact A.declare hs.2.1 hs.2.2 hs.1
  · exact keeps_pure trivial

end Assignments

/-! ### Calls -/

section Calls
variable {u : CodeUnit} {node : ProgramNode} {g : BehaviorGraph}

/-- Whether a step is in step with itself and gives only what may be put in. -/
abbrev Calls (A : Accord c) (m : Building σ (Option Inlining)) : Prop :=
  A.Keeps m fun i? => ∀ i ∈ i?, A.enters i

theorem calls_none : A.Calls (pure none) := keeps_pure fun _ hi => by cases hi

theorem Keeps.calls_none {m : Building σ PUnit} (hm : A.Keeps m fun _ => True) :
    A.Calls (do m; return none) :=
  hm.bind fun _ _ => Accord.calls_none

theorem keeps_connectArguments (qualifier : Option String) :
    A.Keeps (connectArguments c u node qualifier g) fun _ => True :=
  keeps_state.bind fun _ _ => keeps_pure trivial

theorem calls_functionCall (declaration : NodeId) (hdeclared : A.declared node.file node.name) :
    A.Calls (functionCall c node declaration) := by
  unfold functionCall
  split
  · next callee hcallee =>
    refine instep_state.bind fun t => ?_
    split
    · exact calls_none.weaken fun _ _ _ hs => hs.1
    · next hopen =>
      refine .pure fun s x y ⟨hs, ht⟩ => ⟨hs, fun i hi => ?_⟩
      cases hi
      exact A.function hs hdeclared hcallee (by simpa [ht] using hopen)
  · exact calls_none

theorem calls_localModuleCall (module_ function : String) :
    A.Calls (localModuleCall c node module_ function) := by
  unfold localModuleCall
  dsimp only
  generalize (if Text.endsWith (Path.resolve node.file module_) ".js" then _ else _) = path
  split
  · next callee hcallee =>
    refine instep_state.bind fun t => ?_
    split
    · exact calls_none.weaken fun _ _ _ hs => hs.1
    · next hopen =>
      refine .pure fun s x y ⟨hs, ht⟩ => ⟨hs, fun i hi => ?_⟩
      cases hi
      exact A.localModule hs hcallee (by simpa [ht] using hopen)
  · exact calls_none

theorem calls_bareCall : A.Calls (bareCall c node) := by
  unfold bareCall
  dsimp only
  refine (instep_lookup? ..).bind fun found? => ?_
  cases found? with
  | none =>
    refine InStep.weaken (keeps_test _ ?_ calls_none) fun _ _ _ hs => hs.1
    exact (keeps_markKnown node ..).calls_none
  | some found =>
    dsimp only
    split
    · -- a function of the file
      refine InStep.bind (Q := fun _ s x y => A.holds s x y ∧
        (found.declaration.isSome → A.declared node.file node.name)) ?_ fun _ => ?_
      · refine ⟨fun {s x y} hs => ⟨.ok ⟨⟩, _, _, _, rfl, rfl, ?_⟩⟩
        exact ⟨A.mark (fun _ => rfl) hs.1, (hs.2 found rfl).2⟩
      · refine InStep.fact fun hdeclared => ?_
        split
        · next declaration target hdeclaration _ =>
          split
          · exact calls_functionCall _ (hdeclared (by rw [hdeclaration]; rfl))
          · exact calls_none
        · next declaration hdeclaration _ =>
          exact calls_functionCall _ (hdeclared (by rw [hdeclaration]; rfl))
        · exact calls_none
    · next hkind =>
      -- a function of a module
      split
      · exact (calls_localModuleCall ..).weaken fun _ _ _ hs => hs.1
      · refine InStep.weaken ((A.recognize _).bind fun class_ => ?_)
          fun _ _ _ hs => ⟨hs.1, (hs.2 found rfl).1 (.inr hkind)⟩
        cases class_ with
        | builtin => exact (keeps_markKnown node ..).calls_none.weaken fun _ _ _ hs => hs.1
        | thirdParty => exact (keeps_markKnown node ..).calls_none.weaken fun _ _ _ hs => hs.1
        | unknown =>
          refine (A.registers _).bind fun registered => ?_
          cases registered with
          | true => exact (keeps_markKnown node ..).calls_none
          | false => exact calls_none
    · next hkind =>
      -- a module
      refine InStep.weaken ((A.recognize _).bind fun class_ => ?_)
        fun _ _ _ hs => ⟨hs.1, (hs.2 found rfl).1 (.inl hkind)⟩
      refine InStep.weaken ?_ fun _ _ _ hs => hs.1
      cases class_ with
      | thirdParty =>
        exact (keeps_resolveCall ..).bind fun _ _ => (keeps_sensitiveCall ..).bind fun _ _ =>
          (keeps_markSensitive ..).calls_none
      | builtin =>
        exact (keeps_resolveCall ..).bind fun _ _ => (keeps_sensitiveCall ..).bind fun _ _ =>
          (keeps_markSensitive ..).calls_none
      | unknown => exact calls_none
    · exact calls_none.weaken fun _ _ _ hs => hs.1

theorem calls_knownMember (found : Identifier) : A.Calls (knownMember c node found) := by
  unfold knownMember
  dsimp only
  split
  · split
    · exact calls_localModuleCall ..
    · split
      · exact (keeps_markKnown node ..).calls_none
      · split
        · exact (keeps_markKnown node ..).calls_none
        · exact calls_none
  · split
    · exact (keeps_markHinted node ..).calls_none
    · exact (keeps_markKnown node ..).calls_none
    · exact calls_none
  · exact calls_none

/-- Whether a step is in step with itself and gives a graph and only what may be put in. -/
abbrev Visits (A : Accord c) (m : Building σ (BehaviorGraph × Option Inlining)) : Prop :=
  A.Keeps m fun r => ∀ i ∈ r.2, A.enters i

theorem visits_none : A.Visits (pure (g, none)) := keeps_pure fun _ hi => by cases hi

theorem Calls.visits {m : Building σ (Option Inlining)} (hm : A.Calls m) :
    A.Visits (do return (g, ← m)) :=
  Keeps.bind hm fun _ hi => keeps_pure hi

theorem visits_memberCall (object : String) : A.Visits (memberCall c u node object g) := by
  unfold memberCall
  refine (keeps_connectArguments _).bind fun g₁ _ => ?_
  refine (keeps_lookup? ..).bind fun found? _ => ?_
  split
  · split
    · exact visits_none
    · exact (calls_knownMember _).visits
  · exact (keeps_builtinMember node _).bind fun _ _ => visits_none

theorem keeps_chainedCall (object inner : String) :
    A.Keeps (chainedCall c u node object inner g) fun _ => True := by
  unfold chainedCall
  refine (keeps_connectArguments _).bind fun g₁ _ => ?_
  refine (keeps_lookup? ..).bind fun found? _ => ?_
  split
  · split
    · exact keeps_pure trivial
    · split
      · exact (keeps_markKnown node ..).bind fun _ _ => keeps_pure trivial
      · exact keeps_pure trivial
  · exact keeps_pure trivial

theorem visits_nestedMember (object inner : String) :
    A.Visits (nestedMember c u node object inner g) := by
  unfold nestedMember
  dsimp only
  split
  · exact visits_none
  · refine (keeps_lookup? ..).bind fun found? _ => ?_
    split
    · exact (calls_knownMember _).visits
    · split
      · exact visits_none
      · refine (keeps_connectArguments _).bind fun g₁ _ => ?_
        refine (keeps_lookup? ..).bind fun found? _ => ?_
        split
        · split
          · exact (keeps_nestedKnown node ..).bind fun _ _ => visits_none
          · exact visits_none
        · exact (keeps_builtinMember node _).bind fun _ _ => visits_none

theorem visits_invoke : A.Visits (invoke c u node g) := by
  unfold invoke
  dsimp only
  refine (keeps_setCallKind ..).bind fun _ _ => ?_
  split
  · exact (keeps_connectArguments none).bind fun _ _ => calls_bareCall.visits
  · split
    · exact visits_none
    · exact visits_memberCall _
  · split
    · exact visits_none
    · exact visits_memberCall _
  · split
    · exact (keeps_builtinMember node _).bind fun _ _ => visits_none
    · exact visits_none
  · split
    · exact visits_none
    · exact (keeps_chainedCall ..).bind fun _ _ => visits_none
  · split
    · exact visits_none
    · exact visits_nestedMember ..
  all_goals exact visits_none

theorem calls_require : A.Calls (require c node) := by
  unfold require
  split
  · exact calls_none
  · refine keeps_test _ calls_none ?_
    split
    · exact calls_none
    · dsimp only
      split
      · exact calls_none
      · next program hprogram =>
        refine instep_state.bind fun t => ?_
        split
        · exact calls_none.weaken fun _ _ _ hs => hs.1
        · next hopen =>
          refine .pure fun s x y ⟨hs, ht⟩ => ⟨hs, fun i hi => ?_⟩
          cases hi
          exact A.program hs hprogram (by simp_all)

theorem keeps_assignPlus : A.Keeps (assignPlus c node g) fun _ => True := by
  unfold assignPlus
  split
  · refine (keeps_lookup? ..).bind fun found? _ => ?_
    split <;> exact keeps_pure trivial
  · exact keeps_pure trivial

theorem keeps_formatString (former : Option NodeId) :
    A.Keeps (formatString u node former g) fun _ => True := by
  unfold formatString
  split
  · refine (keeps_node? _).bind fun source? _ => ?_
    split <;> exact keeps_pure trivial
  · exact keeps_pure trivial

theorem visits_operation (former : Option NodeId) (hplace : A.place node.file) :
    A.Visits (operation c u node former g) := by
  unfold operation
  dsimp only
  split
  · refine (keeps_assignment hplace).bind fun g₁ _ => ?_
    split <;> exact visits_none
  · exact keeps_assignPlus.bind fun _ _ => visits_none
  · exact (keeps_formatString former).bind fun _ _ => visits_none
  · split
    · exact (keeps_markSensitive ..).bind fun _ _ => visits_none
    · exact visits_none
  · exact calls_require.visits
  · split
    · exact visits_invoke
    · exact visits_none

end Calls

/-! ### Walks -/

omit A in
/-- A step for which something is opened, and closed after it. -/
theorem instep_enclosed {P P' : BuildState → σ → σ → Prop} {E : AnalysisError → σ → σ → Prop}
    {m₁ m₂ : Building σ α} (i : Inlining) (henter : ∀ {s x y}, P s x y → P' (i.enter s) x y)
    (hm : InStep P' E m₁ m₂ fun _ => P') (hleave : ∀ {s x y}, P' s x y → P (i.leave s) x y) :
    InStep P E (do change i.enter; restoring m₁ i.leave) (do change i.enter; restoring m₂ i.leave)
      fun _ => P where
  run {s x y} hs := by
    obtain ⟨r, s', x', y', hx, hy, hcame⟩ := hm.run (henter hs)
    refine ⟨r, i.leave s', x', y', ?_, ?_, ?_⟩
    · show (restoring m₁ i.leave).run (i.enter s, x) = _
      rw [run_restoring, hx]
    · show (restoring m₂ i.leave).run (i.enter s, y) = _
      rw [run_restoring, hy]
    · cases r with
      | ok a => exact hleave hcame
      | error e => exact hcame

section Walks
variable {nested₁ nested₂ : Nested σ}

/-- Whether two builders stay in step on all that may be put in. -/
def Enclosed (A : Accord c) (nested₁ nested₂ : Nested σ) : Prop :=
  ∀ i, A.enters i → InStep A.holds A.fails
    (do change i.enter; restoring (nested₁ i.unit.id) i.leave)
    (do change i.enter; restoring (nested₂ i.unit.id) i.leave) fun _ => A.holds

variable (hnested : A.Enclosed nested₁ nested₂) {u : CodeUnit}
include hnested

theorem instep_putIn (call : NodeId) (g : BehaviorGraph) {i? : Option Inlining}
    (henters : ∀ i ∈ i?, A.enters i) :
    InStep A.holds A.fails (putIn nested₁ call g i?) (putIn nested₂ call g i?)
      fun _ => A.holds := by
  cases i? with
  | none => exact .pure fun _ _ _ hs => hs
  | some i =>
    have hsplit : ∀ nested : Nested σ, putIn nested call g (some i) = do
        let inner ← (do change i.enter; restoring (nested i.unit.id) i.leave)
        change fun s => s.updateNode call (i.note inner)
        return (g.addEdge call inner.entrance [i.tag]).join inner := fun _ => rfl
    rw [hsplit, hsplit]
    refine (hnested i (henters i rfl)).bind fun inner => ?_
    refine (instep_change fun s x y hs => ?_).bind fun _ => .pure fun _ _ _ hs => hs
    exact A.mark (i.unmarked_note inner) hs

theorem instep_firstVisit {current : NodeId} (hvisits : A.visits current)
    (former : Option NodeId) (g : BehaviorGraph) :
    InStep A.holds A.fails (firstVisit c nested₁ u current former g)
      (firstVisit c nested₂ u current former g) fun _ => A.holds := by
  unfold firstVisit
  refine (instep_node? current).bind fun node? => ?_
  cases node? with
  | none => exact .pure fun _ _ _ hs => hs.1
  | some node =>
    dsimp only
    split
    · exact .pure fun _ _ _ hs => hs.1
    · split
      · refine InStep.weaken ((instep_change fun s x y hs => ?_).bind fun _ =>
          .pure fun _ _ _ hs => hs) fun _ _ _ hs => hs.1
        exact A.mark (fun _ => rfl) hs
      · split
        · refine InStep.weaken ((instep_change fun s x y hs => ?_).bind fun _ =>
            .pure fun _ _ _ hs => hs) fun _ _ _ hs => hs.1
          exact A.declare rfl (fun h => by simp [Identifier.NamesModule] at h) hs
        · exact .pure fun _ _ _ hs => hs.1
      · next hkind =>
        -- what the node says now also says what it may be given as an argument
        have hfacts : ∀ s x y, A.holds s x y ∧ some node = s.arena.get? current → A.holds s x y ∧
            (A.place node.file ∧ ∀ i ∈ lambdaArgument? c node, A.enters i) := fun s x y hs =>
          ⟨hs.1, A.known hs.1 hs.2.symm, fun i hi => A.lambda hs.1 hvisits hs.2.symm hkind hi⟩
        refine InStep.weaken (InStep.fact fun hnode => ?_) hfacts
        refine (visits_operation former hnode.1).bind fun r hcalled => ?_
        exact (instep_putIn hnested current r.1 hcalled).bind fun g₁ =>
          instep_putIn hnested current g₁ hnode.2
      · exact .pure fun _ _ _ hs => hs.1

/-- Walks stay in step, if successors of what an accord allows are allowed too. With steps for the
stack and for all edges that are still to come, none of the two is left unfinished. -/
theorem instep_walk (hnext : ∀ n next, A.visits n → next ∈ u.successors n → A.visits next)
    {steps : Nat} {visited : List NodeId} {stack : List (NodeId × Option NodeId)}
    (hsteps : stack.length + unvisitedEdges u visited ≤ steps)
    (hstack : ∀ entry ∈ stack, A.visits entry.1) (g : BehaviorGraph) :
    InStep A.holds A.fails (walk c nested₁ u steps visited stack g)
      (walk c nested₂ u steps visited stack g) fun _ => A.holds := by
  induction steps generalizing visited stack g with
  | zero =>
    have hnil : stack = [] := List.length_eq_zero_iff.mp (by omega)
    rw [hnil]
    exact .pure fun _ _ _ hs => hs
  | succ steps ih =>
    match stack, hsteps, hstack with
    | [], _, _ => exact .pure fun _ _ _ hs => hs
    | (current, former) :: stack, hsteps, hstack =>
      simp only [List.length_cons] at hsteps
      have hvisits := hstack _ (List.mem_cons_self ..)
      have hrest : ∀ entry ∈ stack, A.visits entry.1 := fun entry h =>
        hstack entry (List.mem_cons_of_mem _ h)
      unfold walk
      refine keeps_check.bind fun _ _ => ?_
      split
      · split
        · exact keeps_state.bind fun s _ => ih (by omega) hrest _
        · exact ih (by omega) hrest _
      · next hv =>
        refine (instep_firstVisit hnested hvisits former _).bind fun g₁ => ?_
        have hcount := unvisitedEdges_cons (u := u) hv
        refine keeps_state.bind fun s _ => ih ?_ (fun entry hentry => ?_) _
        · have hlength := (orderedSuccessors_perm s.arena u current).length_eq
          simp only [List.length_append, List.length_map]
          omega
        rcases List.mem_append.mp hentry with hentry | hentry
        · obtain ⟨next, hmem, rfl⟩ := List.mem_map.mp hentry
          exact hnext _ _ hvisits (mem_orderedSuccessors.mp hmem)
        · exact hrest entry hentry

end Walks

/-- Whether everything may be put in, and what holds does not look at what is open. -/
structure Free (A : Accord c) : Prop where
  visits : ∀ n, A.visits n
  enter : ∀ {s x y} (i : Inlining), A.holds s x y → A.holds (i.enter s) x y
  leave : ∀ {s x y} (i : Inlining), A.holds s x y → A.holds (i.leave s) x y
  nesting : ∀ {s x y}, A.holds s x y → A.fails .nesting x y

theorem Free.instep_buildWithin (hA : A.Free) (depth : Nat) (id : NodeId) :
    InStep A.holds A.fails (buildWithin c depth id) (buildWithin c depth id) fun _ => A.holds := by
  induction depth generalizing id with
  | zero => exact .throw fun _ _ _ hs => hA.nesting hs
  | succ depth ih =>
    have hnested : A.Enclosed (buildWithin c depth) (buildWithin c depth) := fun i _ =>
      instep_enclosed i (hA.enter i) (ih i.unit.id) (hA.leave i)
    unfold buildWithin
    split
    · exact instep_walk hnested (fun _ _ _ _ => hA.visits _) (enough_steps _)
        (fun _ _ => hA.visits _) _
    · exact .pure fun _ _ _ hs => hs

theorem Free.enclosed (hA : A.Free) (depth : Nat) :
    A.Enclosed (buildWithin c depth) (buildWithin c depth) := fun i _ =>
  instep_enclosed i (hA.enter i) (hA.instep_buildWithin depth i.unit.id) (hA.leave i)

end Accord

end PackageVet

import PackageVet.Proofs.Build.Accord

/-! One build alone.

A build is in step with itself, next to services that are then the same on both sides. What is said
of such a pair is said of one build: what it keeps of its state and of the services, whether it
fails or not (`Lone`). Every `Lone` is an accord (`Lone.accord`). -/
namespace PackageVet

/-- What one build keeps, of its state and of the services. -/
structure Lone {σ : Type} (c : BuildContext σ) where
  holds : BuildState → σ → Prop
  fails : AnalysisError → σ → Prop
  declared : (file name : String) → Prop
  visits : NodeId → Prop
  enters : Inlining → Prop
  service : ∀ {s x e}, holds s x → fails (.service e) x
  timeout : ∀ {s x limit}, holds s x → fails (.timeout limit) x
  time : ∀ {s x}, holds s x → holds s (c.deadline.check.run x).2
  mark : ∀ {s x id change}, (∀ n : ProgramNode, (change n).unmarked = n.unmarked) →
    holds s x → holds (s.updateNode id change) x
  declare : ∀ {s x} {i : Identifier}, i.declaration = none → holds s x → holds (s.declare i) x
  refuse : ∀ {s x module_}, holds s x →
    holds { s with unregistered := module_ :: s.unregistered } x
  found : ∀ {s x file name line i}, holds s x → s.lookup? file name line = some i →
    i.declaration.isSome → declared file name
  function : ∀ {s x file name id u}, holds s x → declared file name →
    c.index.get? id = some u → s.isOpen file name = false → enters (.function u file name)
  localModule : ∀ {s x file name u}, holds s x → c.index.named? name file = some u →
    s.isOpen file name = false → enters (.localModule u file name)
  program : ∀ {s x file u}, holds s x → c.index.program? file = some u →
    s.requiring.contains file = false → enters (.program u file)
  lambda : ∀ {s x id node i}, holds s x → visits id → s.arena.get? id = some node →
    node.kind = "CALL" → Building.lambdaArgument? c node = some i → enters i
  classify : ∀ {s x} module_, holds s x → holds s ((c.knowledge.classify module_).run x).2
  sensitiveCall : ∀ {s x} qualifier call derivation hint, holds s x →
    holds s ((c.knowledge.sensitiveCall qualifier call derivation hint).run x).2
  registerModule : ∀ {s x} module_ dependencies, holds s x →
    holds s ((c.knowledge.registerModule module_ dependencies).run x).2

namespace Lone
open Building
variable {σ α : Type} {c : BuildContext σ} (L : Lone c)

/-- What holds of a build next to itself. -/
def Twice (s : BuildState) (x y : σ) : Prop := x = y ∧ L.holds s x

def Failed (e : AnalysisError) (x y : σ) : Prop := x = y ∧ L.fails e x

variable {L}

theorem instep_ask {request : Request σ α}
    (h : ∀ s x, L.holds s x → L.holds s (request.run x).2) :
    InStep L.Twice L.Failed (ask request) (ask request) fun _ => L.Twice where
  run {s x y} hs := by
    obtain ⟨rfl, hs⟩ := hs
    have hafter := h s x hs
    rw [run_ask]
    rcases hrun : request.run x with ⟨e | a, x'⟩ <;> rw [hrun] at hafter
    · exact ⟨_, _, _, _, rfl, rfl, rfl, L.service hafter⟩
    · exact ⟨_, _, _, _, rfl, rfl, rfl, hafter⟩

theorem instep_register (module_ : String) :
    InStep L.Twice L.Failed (register c module_) (register c module_) fun _ => L.Twice := by
  unfold register
  refine InStep.bind (Q := fun _ => L.Twice) ⟨fun hs => ⟨.ok _, _, _, _, rfl, rfl, hs⟩⟩
    fun s => ?_
  split
  · exact .pure fun _ _ _ hs => hs
  · refine InStep.bind (Q := fun _ => L.Twice) ⟨fun {s x y} hs => ?_⟩ fun registered => ?_
    · obtain ⟨rfl, hs⟩ := hs
      have hafter := L.registerModule module_ c.sources.dependencies hs
      rw [ExceptT.run_mk]
      dsimp only
      rcases hrun : (c.knowledge.registerModule module_ c.sources.dependencies).run x with
        ⟨e | a, x'⟩ <;> rw [hrun] at hafter
      · exact ⟨_, _, _, _, rfl, rfl, rfl, hafter⟩
      · exact ⟨_, _, _, _, rfl, rfl, rfl, hafter⟩
    · cases registered with
      | true => exact .pure fun _ _ _ hs => hs
      | false =>
        refine InStep.bind (Q := fun _ => L.Twice) ⟨fun hs => ?_⟩ fun _ => .pure fun _ _ _ hs => hs
        exact ⟨.ok ⟨⟩, _, _, _, rfl, rfl, hs.1, L.refuse hs.2⟩

theorem instep_classifyInto (module_ : String) (i : Identifier) :
    InStep L.Twice L.Failed (classifyInto c module_ i) (classifyInto c module_ i)
      fun j s x y => L.Twice s x y ∧ x = y ∧ j.declaration = i.declaration ∧ j.kind = i.kind := by
  unfold classifyInto
  refine (instep_ask fun s x => L.classify module_).bind fun class_ => ?_
  cases class_ with
  | builtin => exact .pure fun _ _ _ hs => ⟨hs, hs.1, rfl, rfl⟩
  | thirdParty => exact .pure fun _ _ _ hs => ⟨hs, hs.1, rfl, rfl⟩
  | unknown => exact (instep_register module_).bind fun _ => .pure fun _ _ _ hs => ⟨hs, hs.1, rfl, rfl⟩

variable (L)

theorem uniform_time (s : BuildState) : Uniform (L.Twice s) c.deadline.check := by
  rintro x y ⟨rfl, hs⟩
  exact ⟨_, _, _, rfl, rfl, rfl, L.time hs⟩

theorem platform {s : BuildState} {x y : σ} (module_ : String) (hs : L.Twice s x y) :
    (∃ k₁ k₂ x' y', (c.knowledge.classify module_).run x = (.ok k₁, x') ∧
      (c.knowledge.classify module_).run y = (.ok k₂, y') ∧ k₁.Near k₂ ∧ L.Twice s x' y' ∧
      (k₁ = .builtin → x' = y')) ∨
    ∃ e x' y', (c.knowledge.classify module_).run x = (.error e, x') ∧
      (c.knowledge.classify module_).run y = (.error e, y') ∧ L.Twice s x' y' := by
  obtain ⟨rfl, hs⟩ := hs
  have hafter := L.classify module_ hs
  rcases hrun : (c.knowledge.classify module_).run x with ⟨e | k, x'⟩ <;> rw [hrun] at hafter
  · exact .inr ⟨e, x', x', rfl, rfl, rfl, hafter⟩
  · exact .inl ⟨k, k, x', x', rfl, rfl, .refl k, ⟨rfl, hafter⟩, fun _ => rfl⟩

/-- A build is in step with itself. -/
def accord : Accord c where
  holds := L.Twice
  fails := L.Failed
  same _ x y := x = y
  place _ := True
  declared := L.declared
  visits := L.visits
  enters := L.enters
  service hs := ⟨hs.1, L.service hs.2⟩
  timeout hs := ⟨hs.1, L.timeout hs.2⟩
  time := L.uniform_time
  mark h hs := ⟨hs.1, L.mark h hs.2⟩
  declare h _ hs := ⟨hs.1, L.declare h hs.2⟩
  found hs h := ⟨fun _ => hs.1, L.found hs.2 h⟩
  known _ _ := trivial
  function hs := L.function hs.2
  localModule hs := L.localModule hs.2
  program hs := L.program hs.2
  lambda hs := L.lambda hs.2
  sensitive _ _ _ _ := instep_ask fun _ _ hs => L.sensitiveCall _ _ _ _ hs
  platform := L.platform
  recognize module_ := ((instep_ask fun _ _ => L.classify module_).mono
    fun _ _ _ _ hs => ⟨hs, hs.1⟩).weaken fun _ _ _ hs => hs.1
  registers module_ := (instep_register module_).weaken fun _ _ _ hs => hs.1
  origin i _ _ _ := instep_classifyInto _ i
  localFile _ _ _ hs := hs.1

end Lone

end PackageVet

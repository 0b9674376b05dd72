import PackageVet.Proofs.Build.Likeness

/-! Steps of two builds, side by side.

The knowledge store gives fixed answers, so questions and marks of sensitivity change nothing that a
walk looks at, and always succeed (`Calm`). For every other step there is one lemma that says: from
states that are alike, when the step succeeds in the first build it succeeds in the second, with
graphs and names that are alike and the same unit to put in, and leaves states that are alike
(`Agrees`). -/
namespace PackageVet

/-- Whether a store never fails, gives every question one answer and registers nothing. -/
structure KnowledgeStore.Fixed {σ : Type} (k : KnowledgeStore σ) : Prop where
  classify : ∀ module_, ∃ class_, (k.classify module_).Gives class_
  sensitiveCall : ∀ qualifier call derivation hint,
    ∃ categories, (k.sensitiveCall qualifier call derivation hint).Gives categories
  registerModule : ∀ module_ dependencies, (k.registerModule module_ dependencies).Gives false

namespace Building
variable {σ α β : Type}

/-! ### Steps that change nothing to look at -/

/-- Whether a step always gives a value and changes nothing that a walk looks at. -/
structure Calm (m : Building σ α) (a : α) : Prop where
  state : ∀ (s : BuildState) services, s.SameView (m.run (s, services)).2.1
  gives : m.Gives a

theorem calm_of_leaves {m : Building σ α} {a : α} (h : Leaves BuildState.SameView m)
    (hgives : m.Gives a) : Calm m a := ⟨h.state, hgives⟩

theorem calm_pure (a : α) : Calm (pure a : Building σ α) a :=
  calm_of_leaves (leaves_pure BuildState.quiet_sameView a) (Effect.gives_pure a)

theorem Calm.bind {m : Building σ α} {next : α → Building σ β} {a : α} {b : β} (hm : Calm m a)
    (hnext : Calm (next a) b) : Calm (m >>= next) b := by
  refine ⟨fun s services => ?_, hm.gives.bind hnext.gives⟩
  have hs := hm.state s services
  obtain ⟨⟨s₁, services₁⟩, hrun⟩ := hm.gives (s, services)
  rw [hrun] at hs
  rw [Effect.run_bind, hrun]
  exact BuildState.quiet_sameView.trans hs (hnext.state s₁ services₁)

theorem calm_ask {request : Request σ α} {a : α} (h : request.Gives a) :
    Calm (ask request : Building σ α) a := by
  refine calm_of_leaves (leaves_ask BuildState.quiet_sameView request) ?_
  rintro ⟨s, services⟩
  obtain ⟨services', hrun⟩ := h services
  refine ⟨(s, services'), ?_⟩
  rw [run_ask, hrun]

theorem calm_markSensitive (id : NodeId) (categories : List Category) :
    Calm (markSensitive id categories : Building σ PUnit) ⟨⟩ := by
  refine calm_of_leaves (leaves_markSensitive BuildState.quiet_sameView id categories) ?_
  unfold markSensitive
  split
  · exact Effect.gives_pure _
  · exact fun _ => ⟨_, rfl⟩

theorem calm_resolveCall (id : NodeId) (fullName : String) (derivation : Derivation) :
    Calm (resolveCall id fullName derivation : Building σ PUnit) ⟨⟩ :=
  calm_of_leaves (leaves_resolveCall BuildState.quiet_sameView id fullName derivation)
    fun _ => ⟨_, rfl⟩

section Store
variable {c : BuildContext σ} (hc : c.knowledge.Fixed)
include hc

theorem calm_classify (module_ : String) : ∃ class_, Calm (classify c module_) class_ :=
  (hc.classify module_).imp fun _ h => calm_ask h

theorem calm_sensitiveCall (qualifier call : String) (derivation : Derivation)
    (hint : Option Category) :
    ∃ categories, Calm (sensitiveCall c qualifier call derivation hint) categories :=
  (hc.sensitiveCall qualifier call derivation hint).imp fun _ h => calm_ask h

theorem calm_register (module_ : String) : Calm (register c module_) false := by
  refine calm_of_leaves (leaves_register BuildState.quiet_sameView c module_) ?_
  rintro ⟨s, services⟩
  obtain ⟨services', hrun⟩ := hc.registerModule module_ c.sources.dependencies services
  unfold register
  by_cases hseen : s.unregistered.contains module_ = true
  · refine ⟨(s, services), Effect.run_bind_eq_ok.mpr ⟨s, (s, services), rfl, ?_⟩⟩
    rw [if_pos hseen]
    rfl
  · refine ⟨({ s with unregistered := module_ :: s.unregistered }, services'),
      Effect.run_bind_eq_ok.mpr ⟨s, (s, services), rfl, ?_⟩⟩
    rw [if_neg hseen]
    refine Effect.run_bind_eq_ok.mpr ⟨false, (s, services'), ?_, rfl⟩
    rw [ExceptT.run_mk]
    dsimp only
    rw [hrun]

theorem calm_markKnown (node : ProgramNode) (qualifier call fullName : String)
    (derivation : Derivation) :
    Calm (markKnown c node qualifier call fullName derivation) ⟨⟩ := by
  obtain ⟨categories, h⟩ := calm_sensitiveCall hc qualifier call derivation none
  exact h.bind ((calm_resolveCall ..).bind (calm_markSensitive ..))

theorem calm_markHinted (node : ProgramNode) (found : Identifier) (qualifier : String) :
    Calm (markHinted c node found qualifier) ⟨⟩ := by
  unfold markHinted
  split
  · next hint _ =>
    obtain ⟨categories, h⟩ := calm_sensitiveCall hc qualifier node.name .thirdParty (some hint)
    refine h.bind ?_
    split
    · exact calm_pure _
    · exact (calm_resolveCall ..).bind (calm_markSensitive ..)
  · exact calm_pure _

theorem calm_builtinMember (node : ProgramNode) (qualifier : String) :
    Calm (builtinMember c node qualifier) ⟨⟩ := by
  unfold builtinMember
  obtain ⟨class_, h⟩ := calm_classify hc
    (String.ofList ((Text.splitOn '.' qualifier.toList).head?.getD []))
  refine h.bind ?_
  split
  · exact calm_markKnown hc ..
  · exact calm_pure _

theorem calm_nestedKnown (node : ProgramNode) (inner : String) (found : Identifier) :
    Calm (nestedKnown c node inner found) ⟨⟩ := by
  unfold nestedKnown
  split
  · split
    · exact calm_markKnown hc ..
    · exact calm_pure _
  · split
    · exact calm_markKnown hc ..
    · exact calm_markHinted hc ..
    · exact calm_pure _
  · exact calm_pure _

theorem calm_classifyInto (module_ : String) (i : Identifier) :
    ∃ j, Calm (classifyInto c module_ i) j := by
  unfold classifyInto
  obtain ⟨class_, h⟩ := calm_classify hc module_
  cases class_ with
  | builtin => exact ⟨_, h.bind (calm_pure _)⟩
  | thirdParty => exact ⟨_, h.bind (calm_pure _)⟩
  | unknown => exact ⟨_, h.bind ((calm_register hc module_).bind (calm_pure _))⟩

theorem calm_originInto (file module_ : String) (i : Identifier) :
    ∃ j, Calm (originInto c file module_ i) j := by
  unfold originInto
  split
  · exact ⟨_, calm_pure _⟩
  · exact calm_classifyInto hc module_ i

theorem calm_assignRequire (node : ProgramNode) (right : CodeNode) (i : Identifier) :
    ∃ j, Calm (assignRequire c node right i) j := by
  unfold assignRequire
  split
  · next module_ _ =>
    obtain ⟨j, h⟩ := calm_originInto hc node.file module_ i
    exact ⟨_, h.bind (calm_pure _)⟩
  · exact ⟨_, calm_pure _⟩

theorem calm_constructOf (node : ProgramNode) (module_ property : String)
    (derivation : Derivation) (i : Identifier) :
    ∃ j, Calm (constructOf c node module_ property derivation i) j := by
  obtain ⟨categories, h⟩ := calm_sensitiveCall hc module_ property derivation none
  exact ⟨_, h.bind ((calm_markSensitive ..).bind (calm_pure _))⟩

end Store

/-! ### Rules -/

/-- Whether, from states that a relation holds between, the second of two steps succeeds whenever
the first does, with values and states as another relation says. -/
structure Sim (P : BuildState → BuildState → Prop) (m₁ : Building σ α) (m₂ : Building σ β)
    (Q : α → β → BuildState → BuildState → Prop) : Prop where
  run : ∀ {s₁ s₂ services₁ services₂ a s₁' services₁'}, P s₁ s₂ →
    m₁.run (s₁, services₁) = (.ok a, s₁', services₁') →
    ∃ b s₂' services₂', m₂.run (s₂, services₂) = (.ok b, s₂', services₂') ∧ Q a b s₁' s₂'

/-- Whether steps of two builds lead from states that are alike to such states, with values that a
relation holds between. -/
abbrev Agrees (A B : Arena) (m₁ : Building σ α) (m₂ : Building σ β) (φ : α → β → Prop) : Prop :=
  Sim (BuildState.Like A B) m₁ m₂ fun a b s₁ s₂ => φ a b ∧ s₁.Like A B s₂

section Rules
variable {γ δ : Type} {A B : Arena} {P : BuildState → BuildState → Prop}
  {Q : α → β → BuildState → BuildState → Prop} {T : γ → δ → BuildState → BuildState → Prop}
  {m₁ : Building σ α} {m₂ : Building σ β} {next₁ : α → Building σ γ} {next₂ : β → Building σ δ}
  {φ : α → β → Prop} {ψ : γ → δ → Prop} {a : α} {b : β}

theorem sim_pure (h : ∀ s₁ s₂, P s₁ s₂ → Q a b s₁ s₂) :
    Sim P (pure a : Building σ α) (pure b : Building σ β) Q where
  run hP hrun := by
    cases hrun
    exact ⟨b, _, _, rfl, h _ _ hP⟩

theorem Sim.bind (hm : Sim P m₁ m₂ Q) (hnext : ∀ a b, Sim (Q a b) (next₁ a) (next₂ b) T) :
    Sim P (m₁ >>= next₁) (m₂ >>= next₂) T where
  run hP hrun := by
    obtain ⟨a, ⟨s₁, services₁⟩, hfirst, hrest⟩ := Effect.run_bind_eq_ok.mp hrun
    obtain ⟨b, s₂, services₂, hfirst', hQ⟩ := hm.run hP hfirst
    obtain ⟨d, s₂', services₂', hrest', hT⟩ := (hnext a b).run hQ hrest
    exact ⟨d, s₂', services₂', Effect.run_bind_eq_ok.mpr ⟨b, _, hfirst', hrest'⟩, hT⟩

/-- A fact about the values so far. -/
theorem Sim.fact {fact : Prop} (h : fact → Sim P m₁ m₂ Q) :
    Sim (fun s₁ s₂ => fact ∧ P s₁ s₂) m₁ m₂ Q :=
  ⟨fun hP hrun => (h hP.1).run hP.2 hrun⟩

theorem agrees_pure (h : φ a b) :
    Agrees A B (pure a : Building σ α) (pure b : Building σ β) φ :=
  sim_pure fun _ _ hlike => ⟨h, hlike⟩

theorem Agrees.bind (hm : Agrees A B m₁ m₂ φ)
    (hnext : ∀ a b, φ a b → Agrees A B (next₁ a) (next₂ b) ψ) :
    Agrees A B (m₁ >>= next₁) (m₂ >>= next₂) ψ :=
  Sim.bind hm fun a b => Sim.fact (hnext a b)

/-- Calm steps agree, whatever they are. -/
theorem agrees_calm (h₁ : Calm m₁ a) (h₂ : Calm m₂ b) (h : φ a b) : Agrees A B m₁ m₂ φ where
  run {s₁ s₂ services₁ services₂ a' s₁' services₁'} hlike hrun := by
    obtain ⟨_, hgives₁⟩ := h₁.gives (s₁, services₁)
    obtain ⟨⟨s₂', services₂'⟩, hgives₂⟩ := h₂.gives (s₂, services₂)
    cases hgives₁.symm.trans hrun
    have hview₁ := h₁.state s₁ services₁
    have hview₂ := h₂.state s₂ services₂
    rw [hgives₁] at hview₁
    rw [hgives₂] at hview₂
    exact ⟨b, s₂', services₂', hgives₂, h, hlike.view hview₁ hview₂⟩

/-- A question has the same answer in both builds. -/
theorem agrees_same {m : Building σ α} (h : ∃ a, Calm m a) : Agrees A B m m Eq := by
  obtain ⟨a, ha⟩ := h
  exact agrees_calm ha ha rfl

theorem agrees_same_bind {m : Building σ α} {next₂ : α → Building σ δ} (h : ∃ a, Calm m a)
    (hnext : ∀ a, Agrees A B (next₁ a) (next₂ a) ψ) :
    Agrees A B (m >>= next₁) (m >>= next₂) ψ :=
  (agrees_same h).bind fun a _ hab => hab ▸ hnext a

theorem sim_change {R : BuildState → BuildState → Prop} {f₁ f₂ : BuildState → BuildState}
    (h : ∀ s₁ s₂, P s₁ s₂ → R (f₁ s₁) (f₂ s₂)) :
    Sim P (change f₁ : Building σ PUnit) (change f₂ : Building σ PUnit) fun _ _ => R where
  run hP hrun := by
    cases hrun
    exact ⟨⟨⟩, _, _, rfl, h _ _ hP⟩

theorem agrees_change {f₁ f₂ : BuildState → BuildState}
    (h : ∀ s₁ s₂, BuildState.Like A B s₁ s₂ → (f₁ s₁).Like A B (f₂ s₂)) :
    Agrees A B (change f₁ : Building σ PUnit) (change f₂ : Building σ PUnit) fun _ _ => True :=
  sim_change fun s₁ s₂ hlike => ⟨trivial, h s₁ s₂ hlike⟩

/-- The second build sees a state of its own. -/
theorem sim_state :
    Sim P (state : Building σ _) (state : Building σ _) fun t₁ t₂ s₁ s₂ =>
      (t₁ = s₁ ∧ t₂ = s₂) ∧ P s₁ s₂ where
  run hP hrun := by
    cases hrun
    exact ⟨_, _, _, rfl, ⟨rfl, rfl⟩, hP⟩

theorem agrees_state :
    Agrees A B (state : Building σ _) (state : Building σ _) (BuildState.Like A B) where
  run hlike hrun := by
    cases hrun
    exact ⟨_, _, _, rfl, hlike, hlike⟩

theorem agrees_lookup? (file name : String) (line : Nat) :
    Agrees A B (lookup? file name line : Building σ _) (lookup? file name line : Building σ _)
      (Option.Rel fun i j => i.blur = j.blur) :=
  agrees_state.bind fun _ _ hlike => agrees_pure (hlike.lookup? file name line)

theorem agrees_node? (id : NodeId) :
    Agrees A B (node? id : Building σ _) (node? id : Building σ _)
      (Option.Rel (ProgramNode.Like (A.calls = B.calls))) :=
  agrees_state.bind fun _ _ hlike => agrees_pure (hlike.get? id)

theorem agrees_setCallKind (id : NodeId) (kind : CallKind)
    (hkind : kind = .assignment → A.name id = "<operator>.assignment") :
    Agrees A B (setCallKind id kind : Building σ _) (setCallKind id kind : Building σ _)
      fun _ _ => True :=
  agrees_change fun _ _ hlike => hlike.setCallKind id kind hkind

theorem agrees_declare {i j : Identifier} (h : i.blur = j.blur) :
    Agrees A B (change (·.declare i) : Building σ _) (change (·.declare j) : Building σ _)
      fun _ _ => True :=
  agrees_change fun _ _ hlike => hlike.declare h

end Rules

/-! ### Assignments -/

/-- Whether graphs are alike, and a relation holds between the values that come with them. -/
def LikeWith (A B : Arena) (fixed : NodeId → Prop) (φ : α → α → Prop)
    (r₁ r₂ : BehaviorGraph × α) : Prop :=
  r₁.1.Like (A.calls = B.calls) fixed r₂.1 ∧ φ r₁.2 r₂.2

/-- The edges into an assignment of what a call returned. -/
def linkReturned (g : BehaviorGraph) (call : ProgramNode) (target : NodeId)
    (former : Option NodeId) : BehaviorGraph :=
  match call.callKind with
  | some .localModuleCall => linkCallReturns g call target former "DDG"
  | some .functionCall =>
    linkCallReturns g call target former (if call.callee.isSome then "DDG" else "CFG")
  | _ => g.linkFrom former target ["DDG"]

/-- What an assigned name stands for that holds what a call returned. -/
def returnedName (call : ProgramNode) (i : Identifier) : Identifier :=
  match call.callKind with
  | some .localModuleCall => { i with kind := .localModuleReturnValue }
  | some .functionCall => { i with kind := .functionReturnValue }
  | some .call =>
    { i with
      kind := .returnObject
      fullName := call.fullName
      origin := call.derivation
      createdBy := call.categories }
  | _ => i

/-- All that the call decides is blurred. -/
theorem blur_returnedName (call : ProgramNode) {i : Identifier} (hi : i.kind = .identifier) :
    (returnedName call i).blur = i.blur := by
  unfold returnedName
  split <;> simp [Identifier.blur, IdentifierKind.blur, hi]

theorem moreInto_linkReturned (g : BehaviorGraph) (call : ProgramNode) (target : NodeId)
    (former : Option NodeId) : g.MoreInto target (linkReturned g call target former) := by
  unfold linkReturned
  split
  · exact moreInto_linkCallReturns g ..
  · exact moreInto_linkCallReturns g ..
  · exact g.moreInto_linkFrom ..

section Assignments
variable {A B : Arena} {fixed : NodeId → Prop} {g₁ g₂ : BehaviorGraph} {c : BuildContext σ}
  (hc : c.knowledge.Fixed) (u : CodeUnit) (node : ProgramNode) (former : Option NodeId)
  (right : CodeNode) (i : Identifier) (hg : g₁.Like (A.calls = B.calls) fixed g₂)

theorem assignReturned_eq (g : BehaviorGraph) :
    (assignReturned node former right g i : Building σ _) = do
      match ← node? right.id with
      | none => return (g.linkFrom former node.id ["DDG"], i)
      | some call => return (linkReturned g call node.id former, returnedName call i) := by
  unfold assignReturned
  congr 1
  funext call?
  cases call? with
  | none => rfl
  | some call =>
    unfold linkReturned returnedName
    dsimp only
    cases call.callKind with
    | none => rfl
    | some kind => cases kind <;> rfl

include hg

theorem agrees_assignReturned (hi : i.kind = .identifier) (ht : ¬ fixed node.id) :
    Agrees A B (assignReturned node former right g₁ i : Building σ _)
      (assignReturned node former right g₂ i : Building σ _)
      (LikeWith A B fixed fun i j => i.blur = j.blur) := by
  rw [assignReturned_eq, assignReturned_eq]
  refine (agrees_node? right.id).bind fun _ _ hcall => ?_
  cases hcall with
  | none => exact agrees_pure ⟨hg.linkFrom .., rfl⟩
  | @some call₁ call₂ hcall =>
    refine agrees_pure ⟨hg.into ht (moreInto_linkReturned ..) (moreInto_linkReturned ..) ?_, ?_⟩
    · intro hsettled
      calc linkReturned g₁ call₁ node.id former
          = linkReturned g₁ call₁.asCall node.id former := rfl
        _ = linkReturned g₂ call₂.asCall node.id former := by
            rw [hg.same hsettled, hcall.call hsettled]
    · exact (blur_returnedName call₁ hi).trans (blur_returnedName call₂ hi).symm

theorem agrees_assignSum (ht : ¬ fixed node.id) :
    Agrees A B (assignSum u node former g₁ : Building σ _) (assignSum u node former g₂)
      fun g₁ g₂ => g₁.Like (A.calls = B.calls) fixed g₂ := by
  unfold assignSum
  cases former with
  | none => exact agrees_pure hg
  | some former =>
    dsimp only
    split
    · refine (agrees_node? former).bind fun _ _ hsource => ?_
      cases hsource with
      | none => exact agrees_pure (hg.addEdge ..)
      | some hsource => exact agrees_pure (hg.linkResolved hsource ht _)
    · exact agrees_pure hg

theorem agrees_assignName :
    Agrees A B (assignName u node right g₁ i : Building σ _) (assignName u node right g₂ i)
      (LikeWith A B fixed fun i j => i.blur = j.blur) := by
  unfold assignName
  refine (agrees_lookup? ..).bind fun _ _ hfound => ?_
  cases hfound with
  | none => exact agrees_pure ⟨hg, rfl⟩
  | @some found₁ found₂ hij =>
    have hname : (i.resolveFrom found₁).blur = (i.resolveFrom found₂).blur := by
      rw [Identifier.blur_resolveFrom, Identifier.blur_resolveFrom, hij]
    dsimp only
    rw [(Identifier.agree_of_blur hij).node]
    exact agrees_pure ⟨hg.linkName .., hname⟩

include hc

theorem agrees_assignField :
    Agrees A B (assignField c u node right g₁ i) (assignField c u node right g₂ i)
      (LikeWith A B fixed fun i j => i.blur = j.blur) := by
  unfold assignField
  cases c.code.children right.id with
  | nil => exact agrees_pure ⟨hg, rfl⟩
  | cons object rest =>
    refine (agrees_lookup? ..).bind fun _ _ hfound => ?_
    cases hfound with
    | none =>
      dsimp only
      split
      · cases JavaScript.firstCallString? (object.code?.getD "") with
        | none => exact agrees_pure ⟨hg, rfl⟩
        | some module_ =>
          exact agrees_same_bind (calm_originInto hc ..) fun _ => agrees_pure ⟨hg, rfl⟩
      · exact agrees_pure ⟨hg, rfl⟩
    | @some found₁ found₂ hij =>
      have hsame := Identifier.agree_of_blur hij
      have hlink := hg.linkName u found₂.node node.id (object.code?.getD "")
      by_cases hkind : found₂.kind = .require
      · simp only [hsame.node, hsame.module?, hsame.isLocal, hsame.isBuiltin, hsame.isThirdParty,
          hsame.require_iff.mpr hkind, hkind, if_true]
        exact agrees_pure ⟨hlink, rfl⟩
      · simp only [hsame.node, mt hsame.require_iff.mp hkind, hkind, if_false]
        exact agrees_pure ⟨hlink, rfl⟩

theorem agrees_constructNamed (className : String) :
    Agrees A B (constructNamed c u node className g₁ i) (constructNamed c u node className g₂ i)
      (LikeWith A B fixed fun i j => i.blur = j.blur) := by
  unfold constructNamed
  refine (agrees_lookup? ..).bind fun _ _ hfound => ?_
  cases hfound with
  | none =>
    refine agrees_same_bind (calm_classify hc className) fun class_ => ?_
    split <;> exact agrees_pure ⟨hg, rfl⟩
  | @some found₁ found₂ hij =>
    have hsame := Identifier.agree_of_blur hij
    refine agrees_pure ⟨?_, ?_⟩
    · dsimp only
      rw [hsame.node]
      by_cases hkind : found₂.kind = .functionDeclare
      · rwa [if_pos (hsame.functionDeclare_iff.mpr hkind), if_pos hkind]
      · rw [if_neg (mt hsame.functionDeclare_iff.mp hkind), if_neg hkind]
        exact hg.linkName ..
    · dsimp only
      rw [hsame.isBuiltin, hsame.isThirdParty, hsame.module?]
      rcases IdentifierKind.blur_eq_blur hsame.kind with hkind | ⟨hvalue₁, hvalue₂⟩
      · rw [hkind]
        split
        · rfl
        · split <;> rfl
        · rfl
      · split <;> split <;> simp_all [IdentifierKind.isValue]

theorem agrees_constructMember (object property : String) :
    Agrees A B (constructMember c u node object property g₁ i)
      (constructMember c u node object property g₂ i)
      (LikeWith A B fixed fun i j => i.blur = j.blur) := by
  have hconstruct : ∀ {g₁ g₂ : BehaviorGraph} (module_ : String) (derivation : Derivation),
      g₁.Like (A.calls = B.calls) fixed g₂ →
      Agrees A B (do return (g₁, ← constructOf c node module_ property derivation i))
        (do return (g₂, ← constructOf c node module_ property derivation i))
        (LikeWith A B fixed fun i j => i.blur = j.blur) := fun module_ derivation hg =>
    agrees_same_bind (calm_constructOf hc ..) fun _ => agrees_pure ⟨hg, rfl⟩
  unfold constructMember
  refine (agrees_lookup? ..).bind fun _ _ hfound => ?_
  cases hfound with
  | none =>
    refine agrees_same_bind (calm_classify hc object) fun class_ => ?_
    split
    · exact hconstruct object .builtin hg
    · exact agrees_pure ⟨hg, rfl⟩
  | @some found₁ found₂ hij =>
    have hsame := Identifier.agree_of_blur hij
    have hlink := hg.linkName u found₂.node node.id object
    dsimp only
    rw [hsame.node, hsame.module?]
    by_cases hkind : found₂.kind = .require
    · rw [if_pos (hsame.require_iff.mpr hkind), if_pos hkind]
      refine agrees_same_bind (calm_classify hc _) fun class_ => ?_
      cases class_ with
      | builtin => exact hconstruct _ .builtin hlink
      | thirdParty => exact hconstruct _ .thirdParty hlink
      | unknown => exact agrees_pure ⟨hlink, rfl⟩
    · rw [if_neg (mt hsame.require_iff.mp hkind), if_neg hkind]
      exact agrees_pure ⟨hlink, rfl⟩

theorem agrees_assignConstructed :
    Agrees A B (assignConstructed c u node right g₁ i) (assignConstructed c u node right g₂ i)
      (LikeWith A B fixed fun i j => i.blur = j.blur) := by
  unfold assignConstructed
  split
  · exact agrees_constructNamed hc u node i hg _
  · exact agrees_constructMember hc u node i hg _ _
  · exact agrees_pure ⟨hg, rfl⟩

theorem agrees_assignCall (hi : i.kind = .identifier) (ht : ¬ fixed node.id) :
    Agrees A B (assignCall c u node former right g₁ i) (assignCall c u node former right g₂ i)
      (LikeWith A B fixed fun i j => i.blur = j.blur) := by
  unfold assignCall
  split
  · exact agrees_same_bind (calm_assignRequire hc ..) fun _ =>
      agrees_pure ⟨hg.linkIncoming .., rfl⟩
  · exact (agrees_assignSum u node former hg ht).bind fun _ _ h => agrees_pure ⟨h, rfl⟩
  · exact (agrees_assignField hc u node right i hg).bind fun _ _ h =>
      agrees_pure ⟨h.1.linkIncoming .., h.2⟩
  · exact (agrees_assignField hc u node right i hg).bind fun _ _ h =>
      agrees_pure ⟨h.1.linkIncoming .., h.2⟩
  · exact agrees_assignReturned node former right i hg hi ht

theorem agrees_assignValue (hi : i.kind = .identifier) (ht : ¬ fixed node.id) :
    Agrees A B (assignValue c u node former right g₁ i) (assignValue c u node former right g₂ i)
      (LikeWith A B fixed fun i j => i.blur = j.blur) := by
  have hincoming := hg.linkIncoming u former node.id
  unfold assignValue
  split
  · exact agrees_assignCall hc u node former right i hg hi ht
  · exact agrees_assignName u node right i hincoming
  · exact agrees_assignConstructed hc u node right i hincoming
  · exact agrees_pure ⟨hincoming, rfl⟩

theorem agrees_assignment (hname : A.name node.id = "<operator>.assignment")
    (ht : ¬ fixed node.id) :
    Agrees A B (assignment c u node former g₁) (assignment c u node former g₂)
      fun g₁ g₂ => g₁.Like (A.calls = B.calls) fixed g₂ := by
  unfold assignment
  split
  · refine (agrees_setCallKind node.id .assignment fun _ => hname).bind fun _ _ _ => ?_
    split
    · exact agrees_pure (hg.linkIncoming ..)
    · refine (agrees_assignValue hc u node former _ _ hg rfl ht).bind fun r₁ r₂ h => ?_
      exact (agrees_declare h.2).bind fun _ _ _ => agrees_pure h.1
  · exact agrees_pure (hg.linkIncoming ..)

end Assignments

/-! ### Calls -/

section Arguments
variable {A B : Arena} {fixed : NodeId → Prop} {g₁ g₂ : BehaviorGraph} {s₁ s₂ : BuildState}
  (hlike : s₁.Like A B s₂) (u : CodeUnit)
include hlike

theorem like_linkArgument (hg : g₁.Like (A.calls = B.calls) fixed g₂) (call : NodeId)
    (name : String) (line : Nat) :
    (linkArgument s₁ u call g₁ name line).Like (A.calls = B.calls) fixed
      (linkArgument s₂ u call g₂ name line) := by
  have hfound := hlike.lookup? u.file name line
  unfold linkArgument
  generalize s₁.lookup? u.file name line = found₁? at hfound ⊢
  generalize s₂.lookup? u.file name line = found₂? at hfound ⊢
  cases hfound with
  | none => exact hg
  | some hij =>
    have hsame := Identifier.agree_of_blur hij
    dsimp only
    rw [hsame.isFunction, hsame.node]
    split
    · exact hg
    · exact hg.linkName ..

theorem like_connectArgument (c : BuildContext σ) (node : ProgramNode) (qualifier : Option String)
    (hg : g₁.Like (A.calls = B.calls) fixed g₂) (argument : CodeNode) :
    (connectArgument c s₁ u node qualifier g₁ argument).Like (A.calls = B.calls) fixed
      (connectArgument c s₂ u node qualifier g₂ argument) := by
  unfold connectArgument
  split
  · split
    · split
      · exact like_linkArgument hlike u hg ..
      · exact hg
    · exact hg
  · refine BehaviorGraph.Like.foldl (fun name hg => ?_) _ hg
    split
    · exact hg
    · exact like_linkArgument hlike u hg ..
  · exact hg

end Arguments

section Calls
variable {A B : Arena} {fixed : NodeId → Prop} {g₁ g₂ : BehaviorGraph} {c : BuildContext σ}
  (u : CodeUnit) (node : ProgramNode)

theorem agrees_connectArguments (qualifier : Option String)
    (hg : g₁.Like (A.calls = B.calls) fixed g₂) :
    Agrees A B (connectArguments c u node qualifier g₁) (connectArguments c u node qualifier g₂)
      fun g₁ g₂ => g₁.Like (A.calls = B.calls) fixed g₂ :=
  agrees_state.bind fun _ _ hlike => agrees_pure
    (BehaviorGraph.Like.foldl (fun argument hg =>
      like_connectArgument hlike u c node qualifier hg argument) _ hg)

theorem agrees_functionCall (declaration : NodeId) :
    Agrees A B (functionCall c node declaration) (functionCall c node declaration) Eq := by
  unfold functionCall
  split
  · refine agrees_state.bind fun s₁ s₂ hlike => ?_
    rw [hlike.isOpen]
    split <;> exact agrees_pure rfl
  · exact agrees_pure rfl

theorem agrees_localModuleCall (module_ function : String) :
    Agrees A B (localModuleCall c node module_ function) (localModuleCall c node module_ function)
      Eq := by
  unfold localModuleCall
  dsimp only
  generalize (if Text.endsWith (Path.resolve node.file module_) ".js" then _ else _) = path
  split
  · refine agrees_state.bind fun s₁ s₂ hlike => ?_
    rw [hlike.isOpen]
    split <;> exact agrees_pure rfl
  · exact agrees_pure rfl

theorem agrees_require (hc : c.knowledge.Fixed) :
    Agrees A B (require c node) (require c node) Eq := by
  unfold require
  split
  · exact agrees_pure rfl
  · refine agrees_same_bind (calm_classify hc _) fun class_ => ?_
    split
    · exact agrees_pure rfl
    · split
      · exact agrees_pure rfl
      · dsimp only
        split
        · exact agrees_pure rfl
        · refine agrees_state.bind fun s₁ s₂ hlike => ?_
          rw [hlike.requiring]
          split <;> exact agrees_pure rfl

/-- Nothing is put in at a method of what is not a module. -/
theorem calm_knownMember (hc : c.knowledge.Fixed) {found : Identifier} (h : found.kind ≠ .require) :
    Calm (knownMember c node found) none := by
  unfold knownMember
  dsimp only
  split
  · next hkind => exact absurd hkind h
  · split
    · exact (calm_markHinted hc ..).bind (calm_pure none)
    · exact (calm_markKnown hc ..).bind (calm_pure none)
    · exact calm_pure none
  · exact calm_pure none

theorem agrees_knownMember (hc : c.knowledge.Fixed) {found₁ found₂ : Identifier}
    (hsame : found₁.Agree found₂) :
    Agrees A B (knownMember c node found₁) (knownMember c node found₂) Eq := by
  by_cases hkind : found₂.kind = .require
  · unfold knownMember
    dsimp only
    rw [hsame.require_iff.mpr hkind, hkind, hsame.module?, hsame.isLocal, hsame.isBuiltin,
      hsame.isThirdParty]
    dsimp only
    have hknown := fun derivation => calm_markKnown hc node (found₂.module?.getD "") node.name
      (found₂.module?.getD "" ++ "." ++ node.name) derivation
    split
    · exact agrees_localModuleCall node _ _
    · split
      · exact agrees_same ⟨_, (hknown .builtin).bind (calm_pure none)⟩
      · split
        · exact agrees_same ⟨_, (hknown .thirdParty).bind (calm_pure none)⟩
        · exact agrees_pure rfl
  · exact agrees_calm (calm_knownMember node hc (mt hsame.require_iff.mp hkind))
      (calm_knownMember node hc hkind) rfl

theorem agrees_bareCall (hc : c.knowledge.Fixed) :
    Agrees A B (bareCall c node) (bareCall c node) Eq := by
  have hmark : ∀ (fullName qualifier call : String) (derivation : Derivation),
      Calm (do
        resolveCall node.id fullName derivation
        markSensitive node.id (← sensitiveCall c qualifier call derivation none)
        return none : Building σ (Option Inlining)) none := by
    intro fullName qualifier call derivation
    obtain ⟨categories, h⟩ := calm_sensitiveCall hc qualifier call derivation none
    exact (calm_resolveCall ..).bind (h.bind ((calm_markSensitive ..).bind (calm_pure none)))
  unfold bareCall
  dsimp only
  refine (agrees_lookup? ..).bind fun _ _ hfound => ?_
  cases hfound with
  | none =>
    refine agrees_same_bind (calm_classify hc _) fun class_ => ?_
    split
    · exact agrees_same ⟨_, (calm_markKnown hc ..).bind (calm_pure none)⟩
    · exact agrees_pure rfl
  | @some found₁ found₂ hij =>
    have hsame := Identifier.agree_of_blur hij
    dsimp only
    rw [hsame.module?, hsame.importedFunction, hsame.declaration, hsame.isLocal]
    rcases IdentifierKind.blur_eq_blur hsame.kind with hkind | ⟨hvalue₁, hvalue₂⟩
    · rw [hkind]
      split
      · refine (agrees_setCallKind node.id .functionCall nofun).bind fun _ _ _ => ?_
        split
        · split
          · exact agrees_functionCall node _
          · exact agrees_pure rfl
        · exact agrees_functionCall node _
        · exact agrees_pure rfl
      · split
        · exact agrees_localModuleCall node _ _
        · refine agrees_same_bind (calm_classify hc _) fun class_ => ?_
          split
          · exact agrees_same ⟨_, (calm_markKnown hc ..).bind (calm_pure none)⟩
          · exact agrees_same ⟨_, (calm_markKnown hc ..).bind (calm_pure none)⟩
          · exact agrees_same ⟨_, (calm_register hc _).bind (calm_pure none)⟩
      · refine agrees_same_bind (calm_classify hc _) fun class_ => ?_
        split
        · exact agrees_same ⟨none, hmark ..⟩
        · exact agrees_same ⟨none, hmark ..⟩
        · exact agrees_pure rfl
      · exact agrees_pure rfl
    · -- nothing is put in where a value is called
      have hnone : Agrees A B (pure none : Building σ (Option Inlining)) (pure none) Eq :=
        agrees_pure rfl
      split <;> split <;> simp_all [IdentifierKind.isValue]

variable (hg : g₁.Like (A.calls = B.calls) fixed g₂)
include hg

theorem agrees_assignPlus :
    Agrees A B (assignPlus c node g₁) (assignPlus c node g₂)
      fun g₁ g₂ => g₁.Like (A.calls = B.calls) fixed g₂ := by
  unfold assignPlus
  split
  · refine (agrees_lookup? ..).bind fun _ _ hfound => ?_
    cases hfound with
    | none => exact agrees_pure hg
    | some hij =>
      simp only [Option.bind_some, (Identifier.agree_of_blur hij).node]
      split
      · exact agrees_pure (hg.addEdge ..)
      · exact agrees_pure hg
  · exact agrees_pure hg

theorem agrees_formatString (former : Option NodeId) (ht : ¬ fixed node.id) :
    Agrees A B (formatString u node former g₁ : Building σ _) (formatString u node former g₂)
      fun g₁ g₂ => g₁.Like (A.calls = B.calls) fixed g₂ := by
  unfold formatString
  cases former with
  | none => exact agrees_pure hg
  | some former =>
    refine (agrees_node? former).bind fun _ _ hsource => ?_
    cases hsource with
    | none => exact agrees_pure (hg.addEdge ..)
    | some hsource => exact agrees_pure (hg.substituteReturns hsource ht _)

variable (hc : c.knowledge.Fixed)
include hc

theorem agrees_memberCall (object : String) :
    Agrees A B (memberCall c u node object g₁) (memberCall c u node object g₂)
      (LikeWith A B fixed Eq) := by
  unfold memberCall
  refine (agrees_connectArguments u node _ hg).bind fun _ _ hg => ?_
  refine (agrees_lookup? ..).bind fun _ _ hfound => ?_
  cases hfound with
  | none =>
    exact agrees_same_bind ⟨_, calm_builtinMember hc ..⟩ fun _ => agrees_pure ⟨hg, rfl⟩
  | @some found₁ found₂ hij =>
    have hsame := Identifier.agree_of_blur hij
    have hlink := hg.linkName u found₂.node node.id object
    dsimp only
    rw [hsame.node, hsame.source]
    split
    · exact agrees_pure ⟨hlink, rfl⟩
    · exact (agrees_knownMember node hc hsame).bind fun _ _ h => agrees_pure ⟨hlink, h⟩

theorem agrees_chainedCall (object inner : String) :
    Agrees A B (chainedCall c u node object inner g₁) (chainedCall c u node object inner g₂)
      fun g₁ g₂ => g₁.Like (A.calls = B.calls) fixed g₂ := by
  unfold chainedCall
  refine (agrees_connectArguments u node _ hg).bind fun _ _ hg => ?_
  refine (agrees_lookup? ..).bind fun _ _ hfound => ?_
  cases hfound with
  | none => exact agrees_pure hg
  | @some found₁ found₂ hij =>
    have hsame := Identifier.agree_of_blur hij
    have hlink := hg.linkName u found₂.node node.id object
    dsimp only
    rw [hsame.node, hsame.source, hsame.isBuiltin, hsame.module?]
    split
    · exact agrees_pure hlink
    · split
      · exact agrees_same_bind ⟨_, calm_markKnown hc ..⟩ fun _ => agrees_pure hlink
      · exact agrees_pure hlink

theorem agrees_nestedMember (object inner : String) :
    Agrees A B (nestedMember c u node object inner g₁) (nestedMember c u node object inner g₂)
      (LikeWith A B fixed Eq) := by
  unfold nestedMember
  dsimp only
  split
  · exact agrees_pure ⟨hg, rfl⟩
  · refine (agrees_lookup? ..).bind fun _ _ hfound => ?_
    cases hfound with
    | @some found₁ found₂ hij =>
      have hsame := Identifier.agree_of_blur hij
      dsimp only
      rw [hsame.node]
      exact (agrees_knownMember node hc hsame).bind fun _ _ h => agrees_pure ⟨hg.linkName .., h⟩
    | none =>
      dsimp only
      split
      · exact agrees_pure ⟨hg, rfl⟩
      · refine (agrees_connectArguments u node _ hg).bind fun _ _ hg => ?_
        refine (agrees_lookup? ..).bind fun _ _ hfound => ?_
        cases hfound with
        | none =>
          exact agrees_same_bind ⟨_, calm_builtinMember hc ..⟩ fun _ => agrees_pure ⟨hg, rfl⟩
        | @some found₁ found₂ hij =>
          have hsame := Identifier.agree_of_blur hij
          have hlink := hg.linkName u found₂.node node.id object
          dsimp only
          rw [hsame.node, hsame.source]
          have hknown : Agrees A B (nestedKnown c node inner found₁)
              (nestedKnown c node inner found₂) Eq :=
            agrees_calm (calm_nestedKnown hc ..) (calm_nestedKnown hc ..) rfl
          split
          · exact hknown.bind fun _ _ _ => agrees_pure ⟨hlink, rfl⟩
          · exact agrees_pure ⟨hlink, rfl⟩

theorem agrees_invoke : Agrees A B (invoke c u node g₁) (invoke c u node g₂)
    (LikeWith A B fixed Eq) := by
  unfold invoke
  dsimp only
  refine (agrees_setCallKind node.id .call nofun).bind fun _ _ _ => ?_
  split
  · exact (agrees_connectArguments u node none hg).bind fun _ _ hg =>
      (agrees_bareCall node hc).bind fun _ _ h => agrees_pure ⟨hg, h⟩
  · split
    · exact agrees_pure ⟨hg, rfl⟩
    · exact agrees_memberCall u node hg hc _
  · split
    · exact agrees_pure ⟨hg, rfl⟩
    · exact agrees_memberCall u node hg hc _
  · split
    · exact agrees_same_bind ⟨_, calm_builtinMember hc ..⟩ fun _ => agrees_pure ⟨hg, rfl⟩
    · exact agrees_pure ⟨hg, rfl⟩
  · split
    · exact agrees_pure ⟨hg, rfl⟩
    · exact (agrees_chainedCall u node hg hc _ _).bind fun _ _ hg => agrees_pure ⟨hg, rfl⟩
  · split
    · exact agrees_pure ⟨hg, rfl⟩
    · exact agrees_nestedMember u node hg hc _ _
  all_goals exact agrees_pure ⟨hg, rfl⟩

/-- A call adds like edges in both builds, and the same unit is to be put in at it. -/
theorem agrees_operation (former : Option NodeId) (hname : A.name node.id = node.name)
    (hfixed : ∀ t, fixed t → A.takesValue t = false) :
    Agrees A B (operation c u node former g₁) (operation c u node former g₂)
      (LikeWith A B fixed Eq) := by
  have hincoming := hg.linkIncoming u former node.id
  have hopen : A.takesValue node.id = true → ¬ fixed node.id := fun h ht =>
    Bool.false_ne_true ((hfixed node.id ht).symm.trans h)
  unfold operation
  dsimp only
  split
  · next hassign =>
    rw [hassign] at hname
    have ht := hopen (by simp [Arena.takesValue, hname])
    refine (agrees_assignment hc u node former hg hname ht).bind fun _ _ hg => ?_
    split
    · exact agrees_pure ⟨hg.ensureEdge ht _ _, rfl⟩
    · exact agrees_pure ⟨hg, rfl⟩
  · exact (agrees_assignPlus node hg).bind fun _ _ hg => agrees_pure ⟨hg.linkIncoming .., rfl⟩
  · next hformat =>
    rw [hformat] at hname
    have ht := hopen (by simp [Arena.takesValue, hname])
    exact (agrees_formatString u node hg former ht).bind fun _ _ hg => agrees_pure ⟨hg, rfl⟩
  · split
    · exact agrees_same_bind ⟨_, calm_markSensitive ..⟩ fun _ => agrees_pure ⟨hincoming, rfl⟩
    · exact agrees_pure ⟨hincoming, rfl⟩
  · exact (agrees_require node hc).bind fun _ _ h => agrees_pure ⟨hincoming, h⟩
  · split
    · exact agrees_invoke u node (hg.linkFrom ..) hc
    · exact agrees_pure ⟨hincoming, rfl⟩

end Calls

end Building

end PackageVet

import PackageVet.Knowledge.Registry
import PackageVet.Proofs.Effect
import PackageVet.Proofs.Service.Retry

/-! Knowledge that one package leaves for the next.

A store over the registry only ever adds to the modules of packages (`KnowledgeTables.Grown`). Two
tables that differ in some more such modules (`KnowledgeTables.Shared`) answer every question about
functions in the same way, and every question about a module but one: a module that is unknown to
the smaller may be a package to the greater (`Shared.classify_eq_or`). -/
namespace PackageVet

/-! ### Tables that grow -/

namespace KnowledgeTables
variable {t t' t'' base t₁ t₂ : KnowledgeTables} {extra : String → Prop} {module_ name : String}

theorem mem_thirdParty_addThirdParty :
    name ∈ (t.addThirdParty module_).thirdParty ↔ name = module_ ∨ name ∈ t.thirdParty :=
  Sorted.mem_insert

/-- Whether tables know the same but for more packages. -/
structure Grown (t t' : KnowledgeTables) : Prop where
  builtins : t'.builtins = t.builtins
  functions : t'.functions = t.functions
  thirdParty : t.thirdParty ⊆ t'.thirdParty

theorem Grown.refl (t : KnowledgeTables) : t.Grown t := ⟨rfl, rfl, List.Subset.refl _⟩

theorem Grown.trans (h : t.Grown t') (h' : t'.Grown t'') : t.Grown t'' :=
  ⟨h'.builtins.trans h.builtins, h'.functions.trans h.functions,
    List.Subset.trans h.thirdParty h'.thirdParty⟩

theorem grown_addThirdParty (t : KnowledgeTables) (module_ : String) :
    t.Grown (t.addThirdParty module_) :=
  ⟨rfl, rfl, fun _ h => mem_thirdParty_addThirdParty.mpr (.inr h)⟩

theorem Grown.sensitiveCall (h : t.Grown t') (qualifier call : String) (derivation : Derivation) :
    t'.sensitiveCall qualifier call derivation = t.sensitiveCall qualifier call derivation := by
  unfold KnowledgeTables.sensitiveCall
  rw [h.functions]

/-- Whether a module is of the kind that may become a package. -/
def Free (t : KnowledgeTables) (module_ : String) : Prop :=
  isLegalModuleName module_ = true ∧ stripScheme module_ ∉ t.builtins

theorem classify_of_free (h : t.Free module_) :
    t.classify module_ =
      if stripScheme module_ ∈ t.thirdParty then .thirdParty else .unknown := by
  unfold classify
  rw [if_pos h.1]
  simp [h.2]

theorem classify_of_not_free (h : ¬ t.Free module_) (hbuiltins : t'.builtins = t.builtins) :
    t'.classify module_ = t.classify module_ := by
  unfold classify
  rw [hbuiltins]
  by_cases hlegal : isLegalModuleName module_ = true
  · have hbuiltin : stripScheme module_ ∈ t.builtins :=
      Classical.byContradiction fun hnot => h ⟨hlegal, hnot⟩
    simp [hlegal, hbuiltin]
  · simp [hlegal]

theorem free_iff (h : t.Grown t') : t'.Free module_ ↔ t.Free module_ := by
  unfold Free
  rw [h.builtins]

/-! ### Tables next to greater ones -/

/-- Whether tables have grown out of others, and further ones know some more packages. -/
structure Shared (base : KnowledgeTables) (extra : String → Prop) (t₁ t₂ : KnowledgeTables) :
    Prop where
  grown : base.Grown t₁
  more : t₁.Grown t₂
  known : ∀ name ∈ t₂.thirdParty, name ∈ t₁.thirdParty ∨ extra name

/-- The only answer in which such tables differ. -/
theorem Shared.classify_eq_or (h : Shared base extra t₁ t₂) (module_ : String) :
    t₁.classify module_ = t₂.classify module_ ∨
      t₁.Free module_ ∧ stripScheme module_ ∈ t₂.thirdParty ∧
      stripScheme module_ ∉ t₁.thirdParty := by
  by_cases hfree : t₁.Free module_
  · by_cases hfirst : stripScheme module_ ∈ t₁.thirdParty
    · left
      rw [classify_of_free hfree, classify_of_free ((free_iff h.more).mpr hfree), if_pos hfirst,
        if_pos (h.more.thirdParty hfirst)]
    · by_cases hsecond : stripScheme module_ ∈ t₂.thirdParty
      · exact .inr ⟨hfree, hsecond, hfirst⟩
      · left
        rw [classify_of_free hfree, classify_of_free ((free_iff h.more).mpr hfree), if_neg hfirst,
          if_neg hsecond]
  · exact .inl (classify_of_not_free hfree h.more.builtins).symm

/-- The answer differs just where the greater tables know the package. -/
theorem classify_ne_of_free (h : t₁.Grown t₂) (hfree : t₁.Free module_)
    (hsecond : stripScheme module_ ∈ t₂.thirdParty) (hfirst : stripScheme module_ ∉ t₁.thirdParty) :
    t₁.classify module_ = .unknown ∧ t₂.classify module_ = .thirdParty := by
  rw [classify_of_free hfree, classify_of_free ((free_iff h).mpr hfree), if_neg hfirst,
    if_pos hsecond]
  exact ⟨rfl, rfl⟩

theorem Shared.addBoth (h : Shared base extra t₁ t₂) (module_ : String) :
    Shared base extra (t₁.addThirdParty module_) (t₂.addThirdParty module_) where
  grown := h.grown.trans (t₁.grown_addThirdParty module_)
  more :=
    { builtins := h.more.builtins
      functions := h.more.functions
      thirdParty := fun name hname => by
        rw [mem_thirdParty_addThirdParty] at hname ⊢
        exact hname.imp_right fun hname => h.more.thirdParty hname }
  known name hname := by
    rw [mem_thirdParty_addThirdParty] at hname ⊢
    rcases hname with rfl | hname
    · exact .inl (.inl rfl)
    · exact (h.known name hname).imp_left .inr

/-- What the greater tables know already may be added to the smaller. -/
theorem Shared.addFirst (h : Shared base extra t₁ t₂) (hknown : module_ ∈ t₂.thirdParty) :
    Shared base extra (t₁.addThirdParty module_) t₂ where
  grown := h.grown.trans (t₁.grown_addThirdParty module_)
  more :=
    { builtins := h.more.builtins
      functions := h.more.functions
      thirdParty := fun name hname => by
        rcases mem_thirdParty_addThirdParty.mp hname with rfl | hname
        · exact hknown
        · exact h.more.thirdParty hname }
  known name hname := (h.known name hname).imp_left fun hname =>
    mem_thirdParty_addThirdParty.mpr (.inr hname)

theorem classify_addThirdParty (t : KnowledgeTables) (added module_ : String) :
    (t.addThirdParty added).classify module_ = .thirdParty ∧ t.Free module_ ∧
        stripScheme module_ = added ∨
      (t.addThirdParty added).classify module_ = t.classify module_ ∧
        ¬ (t.Free module_ ∧ stripScheme module_ = added) := by
  have hgrown := t.grown_addThirdParty added
  by_cases hfree : t.Free module_
  · rw [classify_of_free hfree, classify_of_free ((free_iff hgrown).mpr hfree)]
    by_cases heq : stripScheme module_ = added
    · exact .inl ⟨if_pos (mem_thirdParty_addThirdParty.mpr (.inl heq)), hfree, heq⟩
    · refine .inr ⟨?_, fun h => heq h.2⟩
      simp only [mem_thirdParty_addThirdParty, heq, false_or]
  · exact .inr ⟨classify_of_not_free hfree hgrown.builtins, fun h => hfree h.1⟩

/-- Answers that agree still agree when both sides learn of a package. -/
theorem Shared.classify_addBoth (h : Shared base extra t₁ t₂)
    (hsame : t₁.classify module_ = t₂.classify module_) (added : String) :
    (t₁.addThirdParty added).classify module_ = (t₂.addThirdParty added).classify module_ := by
  rcases classify_addThirdParty t₁ added module_ with ⟨h₁, hfree, heq⟩ | ⟨h₁, hnot⟩
  · rcases classify_addThirdParty t₂ added module_ with ⟨h₂, -⟩ | ⟨-, hnot⟩
    · rw [h₁, h₂]
    · exact absurd ⟨(free_iff h.more).mpr hfree, heq⟩ hnot
  · rcases classify_addThirdParty t₂ added module_ with ⟨-, hfree, heq⟩ | ⟨h₂, -⟩
    · exact absurd ⟨(free_iff h.more).mp hfree, heq⟩ hnot
    · rw [h₁, h₂, hsame]

theorem Shared.classify_addFirst (h : Shared base extra t₁ t₂)
    (hsame : t₁.classify module_ = t₂.classify module_) {added : String}
    (hknown : added ∈ t₂.thirdParty) :
    (t₁.addThirdParty added).classify module_ = t₂.classify module_ := by
  rcases classify_addThirdParty t₁ added module_ with ⟨h₁, hfree, rfl⟩ | ⟨h₁, -⟩
  · rw [h₁, classify_of_free ((free_iff h.more).mpr hfree), if_pos hknown]
  · rw [h₁, hsame]

end KnowledgeTables

/-! ### A registry with a fixed content -/

namespace Registry
variable {ω : Type}

/-- The store that the packages of one batch share: the tables stand next to what lies outside. -/
def shared (r : Registry) (web : Web (KnowledgeTables × ω)) : KnowledgeStore (KnowledgeTables × ω) :=
  r.store web Prod.fst fun tables s => (tables, s.2)

/-- Whether the registry answers every question, and always in the same way. -/
def Serves (r : Registry) (web : Web (KnowledgeTables × ω)) (content : String → Bool) : Prop :=
  ∀ name x, ∃ response w, (web.send (r.request name)).run x = (.ok response, (x.1, w)) ∧
    verdict (r.url name) response = .ok (content name)

variable {r : Registry} {web : Web (KnowledgeTables × ω)} {content : String → Bool}

theorem run_ask {σ : Type} {web : Web σ} {service : String} {request : WebRequest}
    {response : WebResponse} {x x' : σ} (h : (web.send request).run x = (.ok response, x')) :
    (web.ask service request).run x = (.ok response, x') := by
  unfold Web.ask
  rw [ExceptT.run_mk]
  simp only [bind, StateT.bind, h]
  rfl

theorem run_holds (h : r.Serves web content) (name : String) (x : KnowledgeTables × ω) :
    ∃ w, (r.holds web name).run x = (.ok (content name), (x.1, w)) := by
  obtain ⟨response, w, hsend, hverdict⟩ := h name x
  refine ⟨w, Effect.run_bind_eq_ok.mpr ⟨response, _, run_ask hsend, ?_⟩⟩
  rw [hverdict]
  rfl

/-- A module becomes known just when the registry has the package. -/
theorem run_registerModule (h : r.Serves web content) (module_ : String)
    (dependencies : List String) (x : KnowledgeTables × ω) :
    ∃ w, ((r.shared web).registerModule module_ dependencies).run x =
      (.ok (content (registryName module_ dependencies)),
        (if content (registryName module_ dependencies) then x.1.addThirdParty module_ else x.1,
          w)) := by
  obtain ⟨w, hholds⟩ := run_holds h (registryName module_ dependencies) x
  refine ⟨w, Effect.run_bind_eq_ok.mpr ⟨_, _, Retry.run_withRetry_of_ok hholds, ?_⟩⟩
  cases content (registryName module_ dependencies) <;> rfl

end Registry

end PackageVet

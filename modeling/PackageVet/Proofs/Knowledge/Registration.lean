import PackageVet.Proofs.Knowledge.Sharing

/-! What a registration makes known.

The registry may answer anything, fail, and answer otherwise the next time; it does not see the
tables (`Web.beside`). So a registration adds the module to the tables when it says so, and leaves
them alone when it does not (`Registry.run_registerModule_beside`).

A module is asked for by its name without the scheme, and only if the name is legal. One that is
registered under another name, or under one that is not legal, therefore stays unknown
(`KnowledgeTables.classify_addThirdParty_self`). -/
namespace PackageVet

/-! ### Computations next to the tables -/

namespace Effect
variable {ε τ σ α β : Type}

/-- Whether a computation leaves the first part of the state as it is, also when it fails. -/
def KeepsFirst (e : Effect ε (τ × σ) α) : Prop := ∀ s, (e.run s).2.1 = s.1

theorem KeepsFirst.bind {e : Effect ε (τ × σ) α} {next : α → Effect ε (τ × σ) β}
    (h : KeepsFirst e) (hnext : ∀ a, KeepsFirst (next a)) : KeepsFirst (e >>= next) := by
  intro s
  have hs := h s
  rw [run_bind]
  rcases hrun : e.run s with ⟨_ | a, s'⟩ <;> rw [hrun] at hs
  · exact hs
  · exact (hnext a s').trans hs

theorem keepsFirst_onSecond (e : Effect ε σ α) : KeepsFirst (e.onSecond : Effect ε (τ × σ) α) :=
  fun _ => rfl

end Effect

open Effect

variable {τ ω α : Type}

theorem Request.keepsFirst_withRetry {request : Request (τ × ω) α} (h : KeepsFirst request)
    (service : String) (policy : RetryPolicy) : KeepsFirst (withRetry service policy request) := by
  have hafter (n : Nat) (s : τ × ω) : (request.stateAfter s n).1 = s.1 := by
    induction n generalizing s with
    | zero => rfl
    | succ n ih => exact (ih (request.run s).2).trans (h s)
  intro s
  obtain ⟨n, -, hrun⟩ := Retry.run_withRetry service policy request s
  rw [hrun]
  exact hafter (n + 1) s

/-- A web next to something that it does not see. -/
def Web.beside (web : Web ω) : Web (τ × ω) where
  send request := (web.send request).onSecond

theorem Web.keepsFirst_ask (web : Web ω) (service : String) (request : WebRequest) :
    KeepsFirst ((web.beside : Web (τ × ω)).ask service request) := by
  intro s
  unfold Web.ask
  rw [ExceptT.run_mk]
  simp only [bind, StateT.bind]
  have hs := keepsFirst_onSecond (web.send request) s
  change (((web.beside : Web (τ × ω)).send request).run s).2.1 = s.1 at hs
  rcases hrun : ((web.beside : Web (τ × ω)).send request).run s with ⟨_ | response, s'⟩ <;>
    rw [hrun] at hs
  · exact hs
  · exact hs

/-! ### Classes of modules -/

namespace KnowledgeTables
variable {t t' : KnowledgeTables} {module_ : String}

theorem Grown.classify (h : t.Grown t') (hknown : t.classify module_ = .thirdParty) :
    t'.classify module_ = .thirdParty := by
  by_cases hfree : t.Free module_
  · rw [classify_of_free hfree] at hknown
    rw [classify_of_free ((free_iff h).mpr hfree)]
    split at hknown
    · next hmem => exact if_pos (h.thirdParty hmem)
    · cases hknown
  · rw [classify_of_not_free hfree h.builtins, hknown]

/-- A module that was unknown becomes known under its own name, if that is a legal one without the
scheme. -/
theorem classify_addThirdParty_self (h : t.classify module_ = .unknown) :
    (t.addThirdParty module_).classify module_ =
      if isLegalModuleName module_ ∧ stripScheme module_ = module_ then .thirdParty
      else .unknown := by
  rcases classify_addThirdParty t module_ module_ with ⟨hclass, hfree, hname⟩ | ⟨hclass, hnot⟩
  · rw [hclass, if_pos ⟨hfree.1, hname⟩]
  · rw [hclass, h]
    split
    · next hlegal =>
      refine absurd ⟨⟨hlegal.1, fun hbuiltin => ?_⟩, hlegal.2⟩ hnot
      simp [classify, hlegal.1, hbuiltin] at h
    · rfl

end KnowledgeTables

/-! ### Registrations -/

/-- The state after registrations, whatever comes of them. -/
def KnowledgeStore.afterRegistrations {σ : Type} (store : KnowledgeStore σ)
    (requests : List (String × List String)) (s : σ) : σ :=
  requests.foldl (fun s request => ((store.registerModule request.1 request.2).run s).2) s

namespace Registry
variable (r : Registry) (web : Web ω)

theorem keepsFirst_holds (name : String) :
    KeepsFirst (r.holds (web.beside : Web (KnowledgeTables × ω)) name) := by
  refine (web.keepsFirst_ask service (r.request name)).bind fun response => ?_
  cases verdict (r.url name) response with
  | ok found => exact fun _ => rfl
  | error e => exact fun _ => rfl

/-- A module is added on a yes, and nothing is done on a no or a failure. -/
theorem run_addOnYes {ask : Request (KnowledgeTables × ω) Bool} (h : KeepsFirst ask)
    (module_ : String) (t : KnowledgeTables) (w : ω) :
    ∃ result t' w', (do
        let found ← ask
        if found then modify fun s => (s.1.addThirdParty module_, s.2)
        return found : Request (KnowledgeTables × ω) Bool).run (t, w) = (result, (t', w')) ∧
      (result = .ok true → t' = t.addThirdParty module_) ∧ (result ≠ .ok true → t' = t) := by
  have hkeeps := h (t, w)
  rw [run_bind]
  rcases hrun : ask.run (t, w) with ⟨e | found, t', w'⟩ <;> rw [hrun] at hkeeps <;>
    obtain rfl : t' = t := hkeeps
  · exact ⟨_, _, _, rfl, nofun, fun _ => rfl⟩
  · cases found with
    | false => exact ⟨_, _, _, rfl, nofun, fun _ => rfl⟩
    | true => exact ⟨_, _, _, rfl, fun _ => rfl, fun hnot => absurd rfl hnot⟩

/-- A registration that says so adds the module to the tables, and any other leaves them alone. -/
theorem run_registerModule_beside (module_ : String) (dependencies : List String)
    (t : KnowledgeTables) (w : ω) :
    ∃ result t' w', ((r.shared web.beside).registerModule module_ dependencies).run (t, w) =
        (result, (t', w')) ∧
      (result = .ok true → t' = t.addThirdParty module_) ∧ (result ≠ .ok true → t' = t) :=
  run_addOnYes (Request.keepsFirst_withRetry
    (r.keepsFirst_holds web (registryName module_ dependencies)) service r.policy) module_ t w

theorem grown_registerModule (module_ : String) (dependencies : List String)
    (s : KnowledgeTables × ω) :
    s.1.Grown (((r.shared web.beside).registerModule module_ dependencies).run s).2.1 := by
  obtain ⟨result, t', w', hrun, hyes, hno⟩ :=
    r.run_registerModule_beside web module_ dependencies s.1 s.2
  rw [hrun]
  by_cases hresult : result = .ok true
  · exact hyes hresult ▸ s.1.grown_addThirdParty module_
  · exact hno hresult ▸ .refl s.1

theorem grown_afterRegistrations (requests : List (String × List String))
    (s : KnowledgeTables × ω) :
    s.1.Grown ((r.shared web.beside).afterRegistrations requests s).1 := by
  induction requests generalizing s with
  | nil => exact .refl s.1
  | cons request rest ih => exact (r.grown_registerModule web request.1 request.2 s).trans (ih _)

/-- **A module that was unknown is known once its registration succeeds, and stays known**, if its
name is a legal one without the scheme; under any other name it stays unknown. A registration that
does not succeed changes the class of no module. -/
theorem registration_makes_known (t : KnowledgeTables) (w : ω) {module_ : String}
    (h : t.classify module_ = .unknown) (dependencies : List String) :
    ∃ result t' w', ((r.shared web.beside).registerModule module_ dependencies).run (t, w) =
        (result, (t', w')) ∧
      (result = .ok true →
        (t'.classify module_ = .thirdParty ↔
          isLegalModuleName module_ ∧ stripScheme module_ = module_) ∧
        (t'.classify module_ = .thirdParty → ∀ later,
          ((r.shared web.beside).afterRegistrations later (t', w')).1.classify module_ =
            .thirdParty)) ∧
      (result ≠ .ok true → ∀ other, t'.classify other = t.classify other) := by
  obtain ⟨result, t', w', hrun, hyes, hno⟩ :=
    r.run_registerModule_beside web module_ dependencies t w
  refine ⟨result, t', w', hrun, fun hresult => ⟨?_, fun hknown later => ?_⟩,
    fun hresult other => ?_⟩
  · rw [hyes hresult, KnowledgeTables.classify_addThirdParty_self h]
    split <;> simp [*]
  · exact (r.grown_afterRegistrations web later (t', w')).classify hknown
  · rw [hno hresult]

/-- A web that answers with one status after another. -/
def statusWeb : Web (List Nat) where
  send _ := ExceptT.mk fun
    | [] => (.error "no answer", [])
    | status :: rest => (.ok { status }, rest)

/-- The registry is asked a second time, and has the package. -/
theorem registration_makes_known_leftPad :
    KnowledgeTables.classify {} "left-pad" = .unknown ∧
    ∃ t w, ((Registry.shared {} statusWeb.beside).registerModule "left-pad" []).run
        ({}, [503, 200]) = (.ok true, (t, w)) ∧
      ∀ later, ((Registry.shared {} statusWeb.beside).afterRegistrations later (t, w)).1.classify
        "left-pad" = .thirdParty := by
  have hunknown : KnowledgeTables.classify {} "left-pad" = .unknown := by decide +kernel
  obtain ⟨result, t, w, hrun, hyes, -⟩ :=
    registration_makes_known {} statusWeb {} [503, 200] hunknown []
  have hresult : (.ok true : Except ServiceError Bool) = result := congrArg Prod.fst hrun
  obtain ⟨hknown, hstays⟩ := hyes hresult.symm
  exact ⟨hunknown, t, w, hresult ▸ hrun, hstays (hknown.mpr (by decide +kernel))⟩

theorem computed_unheard :
    KnowledgeTables.classify {} "node:left-pad" = .unknown ∧
    (KnowledgeTables.addThirdParty {} "node:left-pad").classify "node:left-pad" = .unknown ∧
    KnowledgeTables.classify {} "_private" = .unknown ∧
    (KnowledgeTables.addThirdParty {} "_private").classify "_private" = .unknown := by
  decide +kernel

/-- The registry has a package for each of two modules, and both stay unknown: one is asked for
without its scheme, and the name of the other is no legal one. -/
theorem registered_yet_unknown :
    (KnowledgeTables.classify {} "node:left-pad" = .unknown ∧
      ∃ t w, ((Registry.shared {} statusWeb.beside).registerModule "node:left-pad" []).run
          ({}, [200]) = (.ok true, (t, w)) ∧
        t.classify "node:left-pad" = .unknown) ∧
    (KnowledgeTables.classify {} "_private" = .unknown ∧
      ∃ t w, ((Registry.shared {} statusWeb.beside).registerModule "_private"
          ["@acme/_private"]).run ({}, [200]) = (.ok true, (t, w)) ∧
        t.classify "_private" = .unknown) := by
  obtain ⟨hscheme, hscheme', hillegal, hillegal'⟩ := computed_unheard
  exact ⟨⟨hscheme, _, _, rfl, hscheme'⟩, ⟨hillegal, _, _, rfl, hillegal'⟩⟩

end Registry

end PackageVet

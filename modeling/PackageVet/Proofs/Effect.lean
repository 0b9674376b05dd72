import PackageVet.Service.Error

/-! Runs of effects that succeed.

A sequence succeeds when its first part does and the rest succeeds from there
(`run_bind_eq_ok`). What each step of a fold keeps, the whole fold keeps (`foldlM_induction`), and a
list is mapped where each of its elements can be (`exists_run_mapM`). A computation that succeeds
from every state, always with the same value, gives that value (`Gives`). -/
namespace PackageVet.Effect
variable {ε σ τ α β : Type} {e : Effect ε σ α} {next : α → Effect ε σ β} {a : α} {b : β} {s s' : σ}

theorem run_bind (e : Effect ε σ α) (next : α → Effect ε σ β) (s : σ) :
    (e >>= next).run s =
      match e.run s with
      | (.ok a, s') => (next a).run s'
      | (.error x, s') => (.error x, s') := by
  have hrun : (e >>= next).run s = ExceptT.bindCont next (e.run s).1 (e.run s).2 := rfl
  rw [hrun]
  rcases e.run s with ⟨_ | a, s'⟩ <;> rfl

theorem run_bind_of_ok (h : e.run s = (.ok a, s')) : (e >>= next).run s = (next a).run s' := by
  rw [run_bind, h]

theorem run_bind_eq_ok : (e >>= next).run s = (.ok b, s') ↔
    ∃ a s₁, e.run s = (.ok a, s₁) ∧ (next a).run s₁ = (.ok b, s') := by
  rw [run_bind]
  rcases e.run s with ⟨x | a, s₁⟩
  · constructor
    · rintro ⟨⟩
    · rintro ⟨a, s₂, ⟨⟩, -⟩
  · constructor
    · exact fun h => ⟨a, s₁, rfl, h⟩
    · rintro ⟨a', s₂, ⟨⟩, h⟩
      exact h

theorem run_pure_eq_ok {a a' : α} : (pure a : Effect ε σ α).run s = (.ok a', s') ↔
    a = a' ∧ s = s' := by
  constructor
  · rintro ⟨⟩
    exact ⟨rfl, rfl⟩
  · rintro ⟨rfl, rfl⟩
    rfl

@[simp]
theorem run_onSecond (e : Effect ε σ α) (t : τ) (s : σ) :
    (e.onSecond : Effect ε (τ × σ) α).run (t, s) = ((e.run s).1, t, (e.run s).2) := rfl

theorem run_of_toOption (h : (e.run s).1.toOption = some a) : ∃ s', e.run s = (.ok a, s') := by
  rcases hrun : e.run s with ⟨_ | a', s'⟩ <;> rw [hrun] at h
  · cases h
  · cases h
    exact ⟨s', rfl⟩

/-- What holds at the start of a fold and is kept by each of its steps holds at the end. -/
theorem foldlM_induction {step : β → α → Effect ε σ β} {P : β → Prop} {xs : List α} (hb : P b)
    (hstep : ∀ b x s b' s', P b → (step b x).run s = (.ok b', s') → P b') {b' : β}
    (h : (xs.foldlM step b).run s = (.ok b', s')) : P b' := by
  induction xs generalizing b s with
  | nil =>
    obtain ⟨rfl, -⟩ := run_pure_eq_ok.mp h
    exact hb
  | cons x rest ih =>
    rw [List.foldlM_cons] at h
    obtain ⟨b₁, s₁, h₁, hrest⟩ := run_bind_eq_ok.mp h
    exact ih (hstep b x s b₁ s₁ hb h₁) hrest

/-- A list is gone through where each element succeeds in every state that the ones before it can
leave. -/
theorem exists_run_mapM {f : α → Effect ε σ β} {I : σ → Prop} {Q : β → Prop}
    (hf : ∀ a s, I s → ∃ b s', (f a).run s = (.ok b, s') ∧ I s' ∧ Q b) (xs : List α) (hs : I s) :
    ∃ bs s', (xs.mapM f).run s = (.ok bs, s') ∧ I s' ∧ ∀ b ∈ bs, Q b := by
  induction xs generalizing s with
  | nil => exact ⟨[], s, rfl, hs, nofun⟩
  | cons a rest ih =>
    obtain ⟨b, s₁, hb, hs₁, hQ⟩ := hf a s hs
    obtain ⟨bs, s₂, hbs, hs₂, hrest⟩ := ih hs₁
    refine ⟨b :: bs, s₂, ?_, hs₂, List.forall_mem_cons.mpr ⟨hQ, hrest⟩⟩
    rw [List.mapM_cons]
    exact run_bind_eq_ok.mpr ⟨b, s₁, hb, run_bind_eq_ok.mpr ⟨bs, s₂, hbs, rfl⟩⟩

/-! ### Computations that always succeed -/

/-- Whether a computation gives a value, from every state. -/
def Gives (e : Effect ε σ α) (a : α) : Prop := ∀ s, ∃ s', e.run s = (.ok a, s')

theorem gives_pure (a : α) : Gives (pure a : Effect ε σ α) a := fun s => ⟨s, rfl⟩

theorem Gives.bind (h : Gives e a) (hnext : Gives (next a) b) : Gives (e >>= next) b := by
  intro s
  obtain ⟨s₁, h₁⟩ := h s
  obtain ⟨s₂, h₂⟩ := hnext s₁
  exact ⟨s₂, run_bind_eq_ok.mpr ⟨a, s₁, h₁, h₂⟩⟩

end PackageVet.Effect

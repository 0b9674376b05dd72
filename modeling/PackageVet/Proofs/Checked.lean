import PackageVet.Error
import PackageVet.Proofs.Effect

/-! Computations that check on their way.

What a search or a choice of nodes comes to has nothing to do with the checks that it makes: it is
some number of checks with a value after them (`ComesTo`). A sequence and a fold of such
computations are such computations, and what a whole one does follows from what a check does: it
comes to its value or fails as a check failed (`ComesTo.cases`), and without a limit it is its value
(`ComesTo.eq_pure`). -/
namespace PackageVet
variable {m : Type → Type} [Monad m] {check : m PUnit} {α β : Type} {e : m α} {a : α}

/-- So many checks, and then a value. -/
def checked (check : m PUnit) (a : α) : Nat → m α
  | 0 => pure a
  | n + 1 => check >>= fun _ => checked check a n

/-- Whether a computation is a number of checks and then a value. -/
def ComesTo (check : m PUnit) (e : m α) (a : α) : Prop := ∃ n, e = checked check a n

theorem comesTo_pure (a : α) : ComesTo check (pure a) a := ⟨0, rfl⟩

theorem ComesTo.afterCheck (h : ComesTo check e a) : ComesTo check (check >>= fun _ => e) a := by
  obtain ⟨n, rfl⟩ := h
  exact ⟨n + 1, rfl⟩

/-! ### Sequences -/

section Lawful
variable [LawfulMonad m]

theorem ComesTo.bind {next : α → m β} {b : β} (h : ComesTo check e a)
    (hnext : ComesTo check (next a) b) : ComesTo check (e >>= next) b := by
  obtain ⟨n, rfl⟩ := h
  induction n with
  | zero => rwa [checked, pure_bind]
  | succ n ih =>
    rw [checked, bind_assoc]
    exact ih.afterCheck

theorem comesTo_foldlM {step : β → α → m β} {f : β → α → β} {xs : List α}
    (h : ∀ b, ∀ a ∈ xs, ComesTo check (step b a) (f b a)) (b : β) :
    ComesTo check (xs.foldlM step b) (xs.foldl f b) := by
  induction xs generalizing b with
  | nil => exact comesTo_pure b
  | cons x rest ih =>
    rw [List.foldlM_cons]
    exact (h b x (List.mem_cons_self ..)).bind
      (ih (fun b a ha => h b a (List.mem_cons_of_mem x ha)) (f b x))

theorem ComesTo.eq_pure (h : ComesTo (pure ⟨⟩ : m PUnit) e a) : e = pure a := by
  obtain ⟨n, rfl⟩ := h
  induction n with
  | zero => rfl
  | succ n ih => rwa [checked, pure_bind]

end Lawful

/-! ### Effects -/

namespace ComesTo
variable {ε σ : Type} {check : Effect ε σ PUnit} {e : Effect ε σ α}

/-- What a computation with checks can do. -/
theorem cases (h : ComesTo check e a) (s : σ) :
    (∃ s', e.run s = (.ok a, s')) ∨
      ∃ x s₁ s', e.run s = (.error x, s') ∧ check.run s₁ = (.error x, s') := by
  obtain ⟨n, rfl⟩ := h
  induction n generalizing s with
  | zero => exact .inl ⟨s, rfl⟩
  | succ n ih =>
    rw [checked, Effect.run_bind]
    rcases hrun : check.run s with ⟨x | ⟨⟩, s'⟩
    · exact .inr ⟨x, s, s', rfl, hrun⟩
    · exact ih s'

theorem eq_of_run {b : α} {s s' : σ} (h : ComesTo check e a) (hrun : e.run s = (.ok b, s')) :
    b = a := by
  rcases h.cases s with ⟨s₁, hrun'⟩ | ⟨x, s₁, s₂, hrun', -⟩
  · rw [hrun'] at hrun
    cases hrun
    rfl
  · rw [hrun'] at hrun
    cases hrun

end ComesTo

/-! ### Deadlines -/

namespace Deadline
variable {σ : Type}

@[simp]
theorem check_unlimited : (unlimited : Deadline σ).check = pure ⟨⟩ := rfl

/-- What a check can do: it succeeds, or the time is up. -/
theorem check_cases (d : Deadline σ) (s : σ) :
    (∃ s', d.check.run s = (.ok ⟨⟩, s')) ∨
      ∃ limit s', d.limit = some limit ∧ d.check.run s = (.error (.timeout limit), s') := by
  unfold check
  split
  · exact .inl ⟨s, rfl⟩
  · next limit hlimit =>
    rw [Effect.run_bind]
    have hread : (ExceptT.lift d.elapsed : Effect AnalysisError σ Duration).run s =
        (.ok (d.elapsed.run s).1, (d.elapsed.run s).2) := rfl
    rw [hread]
    dsimp only
    split
    · exact .inr ⟨limit, _, hlimit, rfl⟩
    · exact .inl ⟨_, rfl⟩

end Deadline

end PackageVet

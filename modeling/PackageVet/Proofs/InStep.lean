import PackageVet.Proofs.Checked

/-! Two runs in step.

Two steps run on one state, each next to services of its own. They are in step when they come out
the same way, with the same value or the same failure, and leave the same state; what holds of the
state and of both services beforehand decides what holds afterwards (`InStep`). A sequence is in step
when its parts are (`InStep.bind`), and so is a loop (`InStep.forM`).

A run is in step with itself, and then the two services are the same: what is said of both is said of
one run. What is about the services alone is in step when it comes to the same on both sides
(`Uniform`). -/
namespace PackageVet
variable {τ σ α β : Type}

/-- What holds after a step, by how it came out. -/
def Came (Q : α → τ → σ → σ → Prop) (E : AnalysisError → σ → σ → Prop) (t : τ) (x y : σ) :
    Except AnalysisError α → Prop
  | .ok a => Q a t x y
  | .error e => E e x y

/-- Whether two steps, on one state and next to services for which `P` holds, come out the same way:
with a value as `Q` says, or with a failure as `E` says. -/
structure InStep (P : τ → σ → σ → Prop) (E : AnalysisError → σ → σ → Prop)
    (m₁ m₂ : Effect AnalysisError (τ × σ) α) (Q : α → τ → σ → σ → Prop) : Prop where
  run : ∀ {t x y}, P t x y → ∃ r t' x' y',
    m₁.run (t, x) = (r, t', x') ∧ m₂.run (t, y) = (r, t', y') ∧ Came Q E t' x' y' r

namespace InStep
variable {P P' : τ → σ → σ → Prop} {E : AnalysisError → σ → σ → Prop}
  {Q Q' : α → τ → σ → σ → Prop} {R : β → τ → σ → σ → Prop}
  {m₁ m₂ : Effect AnalysisError (τ × σ) α} {next₁ next₂ : α → Effect AnalysisError (τ × σ) β}

protected theorem pure {a : α} (h : ∀ t x y, P t x y → Q a t x y) :
    InStep P E (Pure.pure a) (Pure.pure a) Q :=
  ⟨fun hP => ⟨.ok a, _, _, _, rfl, rfl, h _ _ _ hP⟩⟩

protected theorem throw {e : AnalysisError} (h : ∀ t x y, P t x y → E e x y) :
    InStep P E (MonadExcept.throw e : Effect AnalysisError (τ × σ) α) (MonadExcept.throw e) Q :=
  ⟨fun hP => ⟨.error e, _, _, _, rfl, rfl, h _ _ _ hP⟩⟩

protected theorem bind (hm : InStep P E m₁ m₂ Q) (hnext : ∀ a, InStep (Q a) E (next₁ a) (next₂ a) R) :
    InStep P E (m₁ >>= next₁) (m₂ >>= next₂) R where
  run {t x y} hP := by
    obtain ⟨r, t₁, x₁, y₁, hx, hy, hcame⟩ := hm.run hP
    rw [Effect.run_bind, Effect.run_bind, hx, hy]
    cases r with
    | ok a => exact (hnext a).run hcame
    | error e => exact ⟨.error e, t₁, x₁, y₁, rfl, rfl, hcame⟩

theorem weaken (hm : InStep P E m₁ m₂ Q) (h : ∀ t x y, P' t x y → P t x y) :
    InStep P' E m₁ m₂ Q :=
  ⟨fun hP => hm.run (h _ _ _ hP)⟩

theorem mono (hm : InStep P E m₁ m₂ Q) (h : ∀ a t x y, Q a t x y → Q' a t x y) :
    InStep P E m₁ m₂ Q' where
  run hP := by
    obtain ⟨r, t', x', y', hx, hy, hcame⟩ := hm.run hP
    refine ⟨r, t', x', y', hx, hy, ?_⟩
    cases r with
    | ok a => exact h a t' x' y' hcame
    | error e => exact hcame

/-- A fact about the values so far. -/
theorem fact {φ : Prop} (h : φ → InStep P E m₁ m₂ Q) :
    InStep (fun t x y => P t x y ∧ φ) E m₁ m₂ Q :=
  ⟨fun hP => (h hP.2).run hP.1⟩

theorem forM {step₁ step₂ : α → Effect AnalysisError (τ × σ) PUnit} {xs : List α}
    (hstep : ∀ a ∈ xs, InStep P E (step₁ a) (step₂ a) fun _ => P) :
    InStep P E (xs.forM step₁) (xs.forM step₂) fun _ => P := by
  induction xs with
  | nil => exact .pure fun _ _ _ h => h
  | cons a rest ih =>
    exact (hstep a (List.mem_cons_self ..)).bind fun _ =>
      ih fun a ha => hstep a (List.mem_cons_of_mem _ ha)

end InStep

/-! ### Services alone -/

/-- Whether a computation on the services comes to the same on both sides, and keeps what holds of
them. -/
def Uniform (R : σ → σ → Prop) (e : Effect AnalysisError σ α) : Prop :=
  ∀ ⦃x y⦄, R x y → ∃ r x' y', e.run x = (r, x') ∧ e.run y = (r, y') ∧ R x' y'

theorem Uniform.onSecond {P : τ → σ → σ → Prop} {E : AnalysisError → σ → σ → Prop}
    {e : Effect AnalysisError σ α} (h : ∀ t, Uniform (P t) e)
    (hfails : ∀ {t x x' y' err}, e.run x = (.error err, x') → P t x' y' → E err x' y') :
    InStep P E e.onSecond e.onSecond fun _ => P where
  run {t x y} hP := by
    obtain ⟨r, x', y', hx, hy, hP'⟩ := h t hP
    refine ⟨r, t, x', y', by rw [Effect.run_onSecond, hx], by rw [Effect.run_onSecond, hy], ?_⟩
    cases r with
    | ok a => exact hP'
    | error err => exact hfails hx hP'

/-- A computation that only checks on its way is uniform when its checks are. -/
theorem ComesTo.uniform {R : σ → σ → Prop} {check : Effect AnalysisError σ PUnit}
    {e : Effect AnalysisError σ α} {a : α} (h : ComesTo check e a) (hcheck : Uniform R check) :
    Uniform R e := by
  obtain ⟨n, rfl⟩ := h
  induction n with
  | zero => exact fun x y hR => ⟨.ok a, x, y, rfl, rfl, hR⟩
  | succ n ih =>
    intro x y hR
    obtain ⟨r, x', y', hx, hy, hR'⟩ := hcheck hR
    rw [checked, Effect.run_bind, Effect.run_bind, hx, hy]
    cases r with
    | ok => exact ih hR'
    | error err => exact ⟨.error err, x', y', rfl, rfl, hR'⟩

end PackageVet

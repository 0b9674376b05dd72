import PackageVet.Proofs.InStep
import PackageVet.Refine

/-! Judging matches, with services that always say the same.

A computation is `Steady` when it comes to the same from every state and leaves a part of the state
alone. With a steady oracle and a steady probe, judging a match is steady
(`Refiner.steady_keep`). -/
namespace PackageVet

namespace Effect
variable {ε σ ν α β : Type} {view : σ → ν} {m : Effect ε σ α} {next : α → Effect ε σ β}

/-- Whether a computation comes to the same from every state, and leaves a part of the state
alone. -/
def Steady (view : σ → ν) (m : Effect ε σ α) : Prop :=
  ∃ answer, ∀ s, (m.run s).1 = answer ∧ view (m.run s).2 = view s

theorem steady_pure (a : α) : Steady view (pure a : Effect ε σ α) := ⟨.ok a, fun _ => ⟨rfl, rfl⟩⟩

theorem Steady.bind (hm : Steady view m) (hnext : ∀ a, Steady view (next a)) :
    Steady view (m >>= next) := by
  obtain ⟨answer, h⟩ := hm
  cases answer with
  | error e =>
    refine ⟨.error e, fun s => ?_⟩
    obtain ⟨hanswer, hview⟩ := h s
    rw [run_bind]
    rcases hrun : m.run s with ⟨r, s'⟩
    rw [hrun] at hanswer hview
    cases hanswer
    exact ⟨rfl, hview⟩
  | ok a =>
    obtain ⟨answer, h'⟩ := hnext a
    refine ⟨answer, fun s => ?_⟩
    obtain ⟨hanswer, hview⟩ := h s
    rw [run_bind]
    rcases hrun : m.run s with ⟨r, s'⟩
    rw [hrun] at hanswer hview
    cases hanswer
    exact ⟨(h' s').1, (h' s').2.trans hview⟩

theorem Steady.uniform {m : Effect AnalysisError σ α} {R : σ → σ → Prop} (hm : Steady view m)
    (hR : ∀ {x y x' y'}, view x' = view x → view y' = view y → R x y → R x' y') : Uniform R m := by
  obtain ⟨answer, h⟩ := hm
  exact fun x y hxy => ⟨answer, _, _, Prod.ext (h x).1 rfl, Prod.ext (h y).1 rfl,
    hR (h x).2 (h y).2 hxy⟩

end Effect

open Effect
variable {σ ν : Type} {view : σ → ν}

theorem steady_lift {α : Type} {request : Request σ α} (h : Steady view request) :
    Steady view (Request.lift id (fun services _ => services) request) := by
  obtain ⟨answer, h⟩ := h
  refine ⟨answer.mapError .service, fun s => ?_⟩
  obtain ⟨hanswer, hview⟩ := h s
  have hget : (getThe σ : Effect AnalysisError σ σ).run s = (.ok s, s) := rfl
  rw [Request.lift, run_bind, hget]
  rcases hrun : request.run s with ⟨e | a, s'⟩
  · rw [hrun] at hanswer hview
    dsimp only [id]
    rw [hrun, ← hanswer]
    exact ⟨rfl, hview⟩
  · rw [hrun] at hanswer hview
    dsimp only [id]
    rw [hrun, ← hanswer]
    exact ⟨rfl, hview⟩

namespace Refiner
variable {r : Refiner σ}

theorem steady_argumentText?
    (hprobe : ∀ site requests, Steady view (r.probe.evaluate site requests)) (node : ProgramNode) :
    Steady view (r.argumentText? node) := by
  unfold argumentText?
  split
  · exact steady_pure _
  · dsimp only
    split
    · exact steady_pure _
    · split
      · exact steady_pure _
      · split
        · exact steady_pure _
        · split
          · exact steady_pure _
          · split
            · exact steady_pure _
            · split
              · exact steady_pure _
              · refine (hprobe ..).bind fun values? => ?_
                cases values? <;> exact steady_pure _

theorem steady_keep (horacle : ∀ oracle ∈ r.oracle, ∀ j text, Steady view (oracle.judge j text))
    (hprobe : ∀ site requests, Steady view (r.probe.evaluate site requests)) (p : Pattern)
    (m : Mapping) (arena : Arena) (report : Report) : Steady view (r.keep p m arena report) := by
  unfold keep
  split
  · exact steady_pure _
  · split
    · exact steady_pure _
    · split
      · next oracle node ho _ =>
        refine (steady_argumentText? hprobe node).bind fun text? => ?_
        split
        · exact steady_pure _
        · exact steady_pure _
        · exact horacle oracle ho ..
      · exact steady_pure _

end Refiner

end PackageVet

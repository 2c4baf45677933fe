import Mathlib.Logic.Basic

/-!
# Sequences of operations and their simulation

An operation takes a state to a result and a state.  `runOps step` performs a sequence of them and
keeps the results.  If two interpretations of an operation agree on its result in related states and
leave related states, they agree on every sequence (`runOps_simulates`).  Interpretations on one
type of states that are equal keep the same states all along (`runOps_withState_eq`).
-/

universe u v w x

namespace Simulation

variable {ι : Type u} {ρ : Type v} {σ : Type w} {τ : Type x}

/-- Perform the operations one after the other. -/
def runOps (step : ι → σ → ρ × σ) : List ι → σ → List ρ × σ
  | [], s => ([], s)
  | i :: is, s =>
    let r := step i s
    let rest := runOps step is r.2
    (r.1 :: rest.1, rest.2)

@[simp] theorem runOps_nil (step : ι → σ → ρ × σ) (s : σ) : runOps step [] s = ([], s) := rfl

theorem runOps_cons (step : ι → σ → ρ × σ) (i : ι) (is : List ι) (s : σ) :
    runOps step (i :: is) s =
      ((step i s).1 :: (runOps step is (step i s).2).1, (runOps step is (step i s).2).2) := rfl

/-- `R` relates states in which the operation has the same result and leaves related states. -/
def Simulates (step : ι → σ → ρ × σ) (spec : ι → τ → ρ × τ) (R : σ → τ → Prop) : Prop :=
  ∀ i s t, R s t → (step i s).1 = (spec i t).1 ∧ R (step i s).2 (spec i t).2

theorem runOps_simulates {step : ι → σ → ρ × σ} {spec : ι → τ → ρ × τ} {R : σ → τ → Prop}
    (h : Simulates step spec R) : ∀ {is : List ι} {s : σ} {t : τ}, R s t →
    (runOps step is s).1 = (runOps spec is t).1 ∧ R (runOps step is s).2 (runOps spec is t).2 := by
  intro is
  induction is with
  | nil => exact fun hR => ⟨rfl, hR⟩
  | cons i is ih =>
    intro s t hR
    obtain ⟨hresult, hstate⟩ := h i s t hR
    obtain ⟨hresults, hend⟩ := ih hstate
    rw [runOps_cons, runOps_cons, hresult, hresults]
    exact ⟨rfl, hend⟩

/-- The result, and the state the operation leaves. -/
def withState (step : ι → σ → ρ × σ) (i : ι) (s : σ) : (ρ × σ) × σ := (step i s, (step i s).2)

theorem runOps_withState_eq {step spec : ι → σ → ρ × σ} (h : ∀ i s, step i s = spec i s)
    (is : List ι) (s : σ) : runOps (withState step) is s = runOps (withState spec) is s := by
  have hsim : Simulates (withState step) (withState spec) Eq := by
    rintro i s _ rfl
    unfold withState
    rw [h]
    exact ⟨rfl, rfl⟩
  have hrun : (runOps (withState step) is s).1 = (runOps (withState spec) is s).1 ∧
      (runOps (withState step) is s).2 = (runOps (withState spec) is s).2 :=
    runOps_simulates hsim rfl
  exact Prod.ext hrun.1 hrun.2

end Simulation

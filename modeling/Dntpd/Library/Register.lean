import Dntpd.Library.Run

/-!
# A register that some steps store into

`reg` reads a value off the states of a machine.  Each of its steps either stores a value or keeps
the one that is there (`Decision`), and which of them is a relation `Decides` between the step, the
state it starts from and the decision.  Then the value after a run is the one that the last storing
step stored, or the first one if there is no such step (`register_eq_iff`).
-/

universe u v w

namespace Register

open Run

/-- What a step does to the register. -/
inductive Decision (α : Type w)
  | store (a : α)
  | keep

/-- The value of the register after the step. -/
def Decision.apply {α : Type w} : Decision α → α → α
  | store a, _ => a
  | keep, b => b

@[simp] theorem Decision.apply_store {α : Type w} (a b : α) : (store a).apply b = a := rfl

@[simp] theorem Decision.apply_keep {α : Type w} (b : α) : (keep : Decision α).apply b = b := rfl

section

variable {ι : Type u} {σ : Type v} {α : Type w} {step : ι → σ → σ} {reg : σ → α}
  {Decides : ι → σ → Decision α → Prop}

/-- The last step of the run that stored something stored `a`. -/
def LastStored (step : ι → σ → σ) (Decides : ι → σ → Decision α → Prop) (is : List ι) (s : σ)
    (a : α) : Prop :=
  ∃ pre i post, is = pre ++ i :: post ∧ Decides i (runSteps step pre s) (.store a) ∧
    Along step (fun i s => Decides i s .keep) post (runSteps step (pre ++ [i]) s)

/-- No step of the run stored anything. -/
def NeverStored (step : ι → σ → σ) (Decides : ι → σ → Decision α → Prop) (is : List ι) (s : σ) :
    Prop :=
  Along step (fun i s => Decides i s .keep) is s

theorem LastStored.cons {is : List ι} {i : ι} {s : σ} {a : α}
    (h : LastStored step Decides is (step i s) a) : LastStored step Decides (i :: is) s a := by
  obtain ⟨pre, j, post, rfl, hstore, hkeep⟩ := h
  exact ⟨i :: pre, j, post, rfl, hstore, hkeep⟩

/-- The run stored `a` last in its first step, or in the rest. -/
theorem lastStored_cons_iff {is : List ι} {i : ι} {s : σ} {a : α} :
    LastStored step Decides (i :: is) s a ↔
      (Decides i s (.store a) ∧ NeverStored step Decides is (step i s)) ∨
        LastStored step Decides is (step i s) a := by
  constructor
  · rintro ⟨pre, j, post, heq, hstore, hkeep⟩
    cases pre with
    | nil =>
      obtain ⟨rfl, rfl⟩ := List.cons.inj heq
      exact .inl ⟨hstore, hkeep⟩
    | cons k pre =>
      obtain ⟨rfl, rfl⟩ := List.cons.inj heq
      exact .inr ⟨pre, j, post, rfl, hstore, hkeep⟩
  · rintro (⟨hstore, hkeep⟩ | hrest)
    · exact ⟨[], i, is, rfl, hstore, hkeep⟩
    · exact hrest.cons

/-- **The register holds what was stored last**, or what it held at first. -/
theorem register_eq_iff
    (hstep : ∀ i s v, Decides i s v → reg (step i s) = v.apply (reg s))
    (htotal : ∀ i s, ∃ v, Decides i s v) {is : List ι} {s : σ} {a : α} :
    reg (runSteps step is s) = a ↔
      LastStored step Decides is s a ∨ (NeverStored step Decides is s ∧ reg s = a) := by
  induction is generalizing s with
  | nil =>
    have hnone : ¬ LastStored step Decides [] s a := by
      rintro ⟨pre, i, post, heq, -⟩
      simp at heq
    rw [runSteps_nil, or_iff_right hnone]
    exact (and_iff_right trivial).symm
  | cons i is ih =>
    rw [runSteps_cons, ih, lastStored_cons_iff]
    -- the first input decides, or one behind it does
    obtain ⟨v, hv⟩ := htotal i s
    constructor
    · rintro (hlast | ⟨hnever, hreg⟩)
      · exact .inl (.inr hlast)
      · rw [hstep i s v hv] at hreg
        cases v with
        -- the value it stores is the last one if nothing is stored behind it
        | store b =>
          obtain rfl : b = a := hreg
          exact .inl (.inl ⟨hv, hnever⟩)
        | keep => exact .inr ⟨⟨hv, hnever⟩, hreg⟩
    · rintro ((⟨hstore, hnever⟩ | hlast) | ⟨⟨hkeep, hnever⟩, hreg⟩)
      · exact .inr ⟨hnever, hstep i s _ hstore⟩
      · exact .inl hlast
      · exact .inr ⟨hnever, (hstep i s _ hkeep).trans hreg⟩

end

end Register

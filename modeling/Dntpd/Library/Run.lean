import Mathlib.Logic.Basic

/-!
# Properties along a run

A run applies the steps of a list one after the other.  `Along step P is s` says that each step of
the run satisfies `P` in the state it starts from; `runSteps` is the state at the end.

Two properties of steps that agree on the states of an invariant agree along every run that starts
in it, if each step that has the property keeps the invariant (`along_iff_of_invariant`): the first
step that violates one of them violates the other.
-/

universe u v

namespace Run

variable {ι : Type u} {σ : Type v} {step : ι → σ → σ}

/-- Every step of the run has the property in the state it starts from. -/
def Along (step : ι → σ → σ) (P : ι → σ → Prop) : List ι → σ → Prop
  | [], _ => True
  | i :: is, s => P i s ∧ Along step P is (step i s)

instance decidableAlong (step : ι → σ → σ) (P : ι → σ → Prop) [∀ i s, Decidable (P i s)] :
    ∀ (is : List ι) (s : σ), Decidable (Along step P is s)
  | [], _ => .isTrue trivial
  | i :: is, s =>
    have := decidableAlong step P is (step i s)
    inferInstanceAs (Decidable (P i s ∧ Along step P is (step i s)))

/-- The state after the run. -/
def runSteps (step : ι → σ → σ) : List ι → σ → σ
  | [], s => s
  | i :: is, s => runSteps step is (step i s)

@[simp] theorem runSteps_nil (s : σ) : runSteps step [] s = s := rfl

@[simp] theorem runSteps_cons (i : ι) (is : List ι) (s : σ) :
    runSteps step (i :: is) s = runSteps step is (step i s) := rfl

theorem runSteps_append (is js : List ι) (s : σ) :
    runSteps step (is ++ js) s = runSteps step js (runSteps step is s) := by
  induction is generalizing s with
  | nil => rfl
  | cons i is ih => exact ih (step i s)

section

variable {P Q I : ι → σ → Prop}

theorem along_singleton {i : ι} {s : σ} : Along step P [i] s ↔ P i s :=
  and_iff_left trivial

theorem along_append {is js : List ι} : ∀ {s : σ}, Along step P (is ++ js) s ↔
    Along step P is s ∧ Along step P js (runSteps step is s) := by
  induction is with
  | nil => exact fun {s} => (and_iff_right trivial).symm
  | cons i is ih =>
    intro s
    exact (and_congr_right fun _ => ih).trans and_assoc.symm

theorem along_of_forall_mem : ∀ {is : List ι} {s : σ}, (∀ i ∈ is, ∀ s, P i s) →
    Along step P is s := by
  intro is
  induction is with
  | nil => exact fun _ => trivial
  | cons i is ih =>
    exact fun h => ⟨h i List.mem_cons_self _, ih fun j hj => h j (List.mem_cons_of_mem i hj)⟩

theorem Along.mono (h : ∀ i s, P i s → Q i s) : ∀ {is : List ι} {s : σ},
    Along step P is s → Along step Q is s := by
  intro is
  induction is with
  | nil => exact fun _ => trivial
  | cons i is ih => exact fun hP => ⟨h i _ hP.1, ih hP.2⟩

/-- Properties that agree on the steps of a run with a third one agree along it. -/
theorem along_iff_of_along {R : ι → σ → Prop} (h : ∀ i s, R i s → (P i s ↔ Q i s)) :
    ∀ {is : List ι} {s : σ}, Along step R is s → (Along step P is s ↔ Along step Q is s) := by
  intro is
  induction is with
  | nil => exact fun _ => Iff.rfl
  | cons i is ih => exact fun hR => and_congr (h i _ hR.1) (ih hR.2)

theorem Along.and : ∀ {is : List ι} {s : σ}, Along step P is s → Along step Q is s →
    Along step (fun i s => P i s ∧ Q i s) is s := by
  intro is
  induction is with
  | nil => exact fun _ _ => trivial
  | cons i is ih => exact fun hP hQ => ⟨⟨hP.1, hQ.1⟩, ih hP.2 hQ.2⟩

end

section

variable {P Q : ι → σ → Prop} {I : σ → Prop}

/-- An invariant that every step with the property keeps holds along the run. -/
theorem Along.invariant (hstep : ∀ i s, I s → P i s → I (step i s)) : ∀ {is : List ι} {s : σ},
    I s → Along step P is s → Along step (fun _ s => I s) is s ∧ I (runSteps step is s) := by
  intro is
  induction is with
  | nil => exact fun hI _ => ⟨trivial, hI⟩
  | cons i is ih =>
    intro s hI hP
    obtain ⟨hrest, hend⟩ := ih (hstep i s hI hP.1) hP.2
    exact ⟨⟨hI, hrest⟩, hend⟩

/-- Properties that agree on the states of an invariant agree along the runs that start in it. -/
theorem along_iff_of_invariant (hiff : ∀ i s, I s → (P i s ↔ Q i s))
    (hstep : ∀ i s, I s → P i s → I (step i s)) : ∀ {is : List ι} {s : σ}, I s →
    (Along step P is s ↔ Along step Q is s) := by
  intro is
  induction is with
  | nil => exact fun _ => Iff.rfl
  | cons i is ih =>
    intro s hI
    constructor
    · rintro ⟨hP, hrest⟩
      exact ⟨(hiff i s hI).mp hP, (ih (hstep i s hI hP)).mp hrest⟩
    -- here the step keeps the invariant only because it has `P` as well
    · rintro ⟨hQ, hrest⟩
      have hP := (hiff i s hI).mpr hQ
      exact ⟨hP, (ih (hstep i s hI hP)).mpr hrest⟩

/-- The same along a run whose steps have a third property that the agreement may use. -/
theorem Along.iff_of_invariant {R : ι → σ → Prop} (hiff : ∀ i s, I s → R i s → (P i s ↔ Q i s))
    (hstep : ∀ i s, I s → R i s → P i s → I (step i s)) {is : List ι} {s : σ} (hI : I s)
    (hR : Along step R is s) : Along step P is s ↔ Along step Q is s := by
  have h : Along step (fun i s => R i s ∧ P i s) is s ↔
      Along step (fun i s => R i s ∧ Q i s) is s :=
    along_iff_of_invariant (fun i s hI => and_congr_right (hiff i s hI))
      (fun i s hI hRP => hstep i s hI hRP.1 hRP.2) hI
  constructor
  · exact fun hP => (h.mp (hR.and hP)).mono fun _ _ hRQ => hRQ.2
  · exact fun hQ => (h.mpr (hR.and hQ)).mono fun _ _ hRP => hRP.2

/-- Properties that agree everywhere agree along every run. -/
theorem along_congr (hiff : ∀ i s, P i s ↔ Q i s) (is : List ι) (s : σ) :
    Along step P is s ↔ Along step Q is s :=
  along_iff_of_invariant (I := fun _ => True) (fun i s _ => hiff i s) (fun _ _ _ _ => trivial)
    trivial

end

end Run

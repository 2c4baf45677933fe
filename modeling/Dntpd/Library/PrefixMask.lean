import Mathlib.Data.List.Basic

/-!
# Prefixes of words and the masks that select them

`mask w n` has its first `n` bits set, counted from the most significant one.  Two words agree under
it exactly when they have the same first `n` bits (`and_mask_eq_iff`), and masks of different prefix
lengths differ (`mask_injective`).
-/

namespace PrefixMask

/-- The words have the same first `n` bits. -/
def SamePrefix {w : ℕ} (n : ℕ) (x y : BitVec w) : Prop := ∀ i < n, x.getMsbD i = y.getMsbD i

instance {w : ℕ} (n : ℕ) (x y : BitVec w) : Decidable (SamePrefix n x y) :=
  Nat.decidableBallLT n fun i _ => x.getMsbD i = y.getMsbD i

/-- The word whose first `n` bits are set. -/
def mask (w n : ℕ) : BitVec w := BitVec.allOnes w <<< (w - n)

variable {w n m : ℕ}

theorem getMsbD_mask (h : n ≤ w) (i : ℕ) : (mask w n).getMsbD i = decide (i < n) := by
  unfold mask
  rw [BitVec.getMsbD_shiftLeft, BitVec.getMsbD_allOnes]
  simp only [decide_eq_decide]
  omega

theorem and_mask_eq_iff (h : n ≤ w) (x y : BitVec w) :
    x &&& mask w n = y &&& mask w n ↔ SamePrefix n x y := by
  constructor
  · intro heq i hi
    have hbit : (x &&& mask w n).getMsbD i = (y &&& mask w n).getMsbD i := by rw [heq]
    simpa [getMsbD_mask h, hi] using hbit
  · intro hsame
    apply BitVec.eq_of_getMsbD_eq
    intro i hi
    rw [BitVec.getMsbD_and, BitVec.getMsbD_and, getMsbD_mask h]
    by_cases hin : i < n
    · rw [hsame i hin]
    · simp [hin]

/-- The first bit behind the shorter prefix tells the masks apart. -/
theorem mask_ne_of_lt (hm : m ≤ w) (h : n < m) : mask w n ≠ mask w m := by
  intro heq
  have hbit : (mask w n).getMsbD n = (mask w m).getMsbD n := by rw [heq]
  rw [getMsbD_mask (Nat.le_trans (Nat.le_of_lt h) hm), getMsbD_mask hm] at hbit
  simp [h] at hbit

theorem mask_injective (hn : n ≤ w) (hm : m ≤ w) (h : mask w n = mask w m) : n = m := by
  by_contra hne
  rcases Nat.lt_or_gt_of_ne hne with hlt | hlt
  · exact mask_ne_of_lt hm hlt h
  · exact mask_ne_of_lt hn hlt h.symm

end PrefixMask

import Mathlib.Order.Monotone.Basic
import Mathlib.Algebra.Order.Ring.Nat
import Mathlib.Tactic.Ring

/-!
# Rescaling by floor division

`rescale a b n` is what `n` parts of `a` are in whole parts of `b`.  To a scale that is not coarser
it is strictly monotone (`rescale_strictMono`), and the way back loses at most one part
(`rescale_rescale`).
-/

namespace Rescale

/-- `n` parts of `a` in whole parts of `b`. -/
def rescale (a b n : ℕ) : ℕ := n * b / a

variable {a b : ℕ}

theorem rescale_mono (a b : ℕ) : Monotone (rescale a b) := fun _ _ h =>
  Nat.div_le_div_right (Nat.mul_le_mul_right b h)

/-- Less than a whole stays less than a whole. -/
theorem rescale_lt {n : ℕ} (hb : 0 < b) (hn : n < a) : rescale a b n < b := by
  have ha : 0 < a := Nat.zero_lt_of_lt hn
  rw [rescale, Nat.div_lt_iff_lt_mul ha, Nat.mul_comm b a]
  exact Nat.mul_lt_mul_of_pos_right hn hb

theorem rescale_strictMono (ha : 0 < a) (hab : a ≤ b) : StrictMono (rescale a b) := by
  intro n m hnm
  have hstep : rescale a b n + 1 ≤ rescale a b m := by
    rw [rescale, rescale, Nat.le_div_iff_mul_le ha]
    calc (n * b / a + 1) * a
        = n * b / a * a + a := by ring
      _ ≤ n * b + b := Nat.add_le_add (Nat.div_mul_le_self _ _) hab
      _ = (n + 1) * b := by ring
      _ ≤ m * b := Nat.mul_le_mul_right b hnm
  exact hstep

/-- There and back through a scale that is not coarser loses at most one part. -/
theorem rescale_rescale (ha : 0 < a) (hab : a ≤ b) (n : ℕ) :
    rescale b a (rescale a b n) ≤ n ∧ n ≤ rescale b a (rescale a b n) + 1 := by
  have hb : 0 < b := Nat.lt_of_lt_of_le ha hab
  have hfloor : n * b < (n * b / a + 1) * a := Nat.lt_mul_of_div_lt (Nat.lt_succ_self _) ha
  constructor
  · calc rescale b a (rescale a b n)
        ≤ n * b / b := Nat.div_le_div_right (Nat.div_mul_le_self _ _)
      _ = n := Nat.mul_div_cancel n hb
  · have hback : n * b < (rescale b a (rescale a b n) + 2) * b := by
      have hfloor' : n * b / a * a < (n * b / a * a / b + 1) * b :=
        Nat.lt_mul_of_div_lt (Nat.lt_succ_self _) hb
      calc n * b
          < n * b / a * a + a := by rwa [Nat.add_mul, Nat.one_mul] at hfloor
        _ ≤ n * b / a * a + b := Nat.add_le_add_left hab _
        _ < (n * b / a * a / b + 1) * b + b := Nat.add_lt_add_right hfloor' b
        _ = (rescale b a (rescale a b n) + 2) * b := by
          rw [rescale, rescale]
          ring
    exact Nat.lt_succ_iff.mp (Nat.lt_of_mul_lt_mul_right hback)

end Rescale

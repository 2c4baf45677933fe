import Mathlib.Data.List.Basic
import Mathlib.Logic.Function.Basic

/-!
# Loops that compact an array

`run value n a` is the loop

    for (i = 0; i < n; i++) if (value(i) is there) a[k++] = value(i);

where `value i` may look at the array, also at the one that is being written.  If it looks at
nothing before the index `i`, the write position, which is never ahead of `i`, does not get in its
way, and the loop leaves the values of the initial array (`written_run`).
-/

namespace Compaction

variable {α : Type*}

/-- One turn: the value, if there is one, is written and counted. -/
def step (value : ℕ → (ℕ → α) → Option α) (i : ℕ) (s : (ℕ → α) × ℕ) : (ℕ → α) × ℕ :=
  match value i s.1 with
  | some v => (Function.update s.1 s.2 v, s.2 + 1)
  | none => s

/-- The array and the write position after `n` turns. -/
def run (value : ℕ → (ℕ → α) → Option α) : ℕ → (ℕ → α) → (ℕ → α) × ℕ
  | 0, a => (a, 0)
  | n + 1, a => step value n (run value n a)

/-- The elements before the write position. -/
def written (s : (ℕ → α) × ℕ) : List α := (List.range s.2).map s.1

/-- A value is appended to what was written. -/
theorem written_step (value : ℕ → (ℕ → α) → Option α) (i : ℕ) (s : (ℕ → α) × ℕ) :
    written (step value i s) = written s ++ (value i s.1).toList := by
  unfold written step
  cases value i s.1 with
  | none => exact (List.append_nil _).symm
  | some v =>
    dsimp only
    rw [List.range_succ, List.map_append, List.map_singleton, Function.update_self,
      Option.toList_some]
    refine congrArg (· ++ [v]) (List.map_congr_left fun j hj => ?_)
    exact Function.update_of_ne (Nat.ne_of_lt (List.mem_range.mp hj)) _ _

/-- The values look at nothing before their index. -/
def LooksAhead (value : ℕ → (ℕ → α) → Option α) : Prop :=
  ∀ i a b, (∀ j, i ≤ j → a j = b j) → value i a = value i b

/-- After `n` turns at most `n` elements are written, the array is the initial one from `n` on, and
what was written are the values of the initial array. -/
theorem run_invariant {value : ℕ → (ℕ → α) → Option α} (h : LooksAhead value) (a : ℕ → α) :
    ∀ n : ℕ, (run value n a).2 ≤ n ∧ (∀ j, n ≤ j → (run value n a).1 j = a j) ∧
      written (run value n a) = (List.range n).filterMap fun i => value i a := by
  intro n
  induction n with
  | zero => exact ⟨Nat.le_refl 0, fun _ _ => rfl, rfl⟩
  | succ n ih =>
    obtain ⟨hle, hrest, hwritten⟩ := ih
    have hvalue : value n (run value n a).1 = value n a := h n _ _ hrest
    refine ⟨?_, fun j hj => ?_, ?_⟩
    · rw [run, step]
      cases value n (run value n a).1 with
      | none => exact Nat.le_succ_of_le hle
      | some v => exact Nat.succ_le_succ hle
    · rw [run, step]
      cases value n (run value n a).1 with
      | none => exact hrest j (Nat.le_of_succ_le hj)
      | some v =>
        -- the write position is at most `n`, so it is not `j`
        exact (Function.update_of_ne (by omega) _ _).trans (hrest j (Nat.le_of_succ_le hj))
    · rw [run, written_step, hwritten, hvalue, List.range_succ, List.filterMap_append]
      cases hv : value n a with
      | none => simp [hv]
      | some v => simp [hv]

theorem written_run {value : ℕ → (ℕ → α) → Option α} (h : LooksAhead value) (n : ℕ) (a : ℕ → α) :
    written (run value n a) = (List.range n).filterMap fun i => value i a :=
  (run_invariant h a n).2.2

end Compaction

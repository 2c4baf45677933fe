import Mathlib.Data.List.Basic
import Mathlib.Data.List.Sort
import Mathlib.Order.Lattice

/-!
# Bubble sort on a prefix of a list

`pass n l` is the inner loop of bubble sort: `n` compare-and-swap steps from the head of `l`,
which carry the largest of the first `n + 1` elements to position `n` (`pass_append`).
`passes n l` is the outer loop, passes of `n`, `n - 1`, …, `1` steps; on a list of `n + 1`
elements it sorts (`perm_passes`, `sorted_passes`).

`passInPlace` and `passesInPlace` are the two loops on the cells of an array, which is the sequence
`ℕ → α`; what they do to its first cells the others do to the list of these
(`map_passesInPlace`), and they leave the rest alone (`passesInPlace_of_lt`).
-/

namespace BubbleSort

variable {α : Type*} [LinearOrder α]

/-- `n` compare-and-swap steps from the head. -/
def pass : ℕ → List α → List α
  | n + 1, a :: b :: l => if b < a then b :: pass n (a :: l) else a :: pass n (b :: l)
  | _, l => l

/-- Passes of `n`, `n - 1`, …, `1` steps. -/
def passes : ℕ → List α → List α
  | 0, l => l
  | n + 1, l => passes n (pass (n + 1) l)

/-! ### The inner loop -/

theorem pass_zero (l : List α) : pass 0 l = l := by
  rw [pass]
  intro n a b t h
  exact absurd h (Nat.succ_ne_zero n).symm

theorem perm_pass (n : ℕ) (l : List α) : (pass n l).Perm l := by
  fun_induction pass n l with
  | case1 n a b l hlt ih => exact (ih.cons b).trans (.swap a b l)
  | case2 n a b l hge ih => exact ih.cons a
  | case3 => exact .refl _

/-- A pass over the first `n + 1` elements leaves the rest alone and carries a maximum of these to
their end. -/
theorem pass_append : ∀ (n : ℕ) (xs ys : List α), xs.length = n + 1 →
    ∃ xs' m, pass n (xs ++ ys) = xs' ++ m :: ys ∧ (xs' ++ [m]).Perm xs ∧ ∀ x ∈ xs', x ≤ m := by
  intro n
  induction n with
  | zero =>
    intro xs ys hxs
    obtain ⟨a, rfl⟩ := List.length_eq_one_iff.mp hxs
    exact ⟨[], a, by rw [pass_zero]; rfl, .refl _, by simp⟩
  | succ n ih =>
    intro xs ys hxs
    obtain ⟨a, b, t, rfl⟩ : ∃ a b t, xs = a :: b :: t := by
      match xs, hxs with
      | a :: b :: t, _ => exact ⟨a, b, t, rfl⟩
    have hlen : (b :: t).length = n + 1 := by simpa using hxs
    rw [List.cons_append, List.cons_append, pass]
    -- whichever of `a`, `b` is carried on, the one left behind is at most the final maximum
    split_ifs with hlt
    · obtain ⟨xs', m, hpass, hperm, hmax⟩ := ih (a :: t) ys hlen
      have ham : a ≤ m := by
        rcases List.mem_append.mp (hperm.mem_iff.mpr List.mem_cons_self) with ha | ha
        · exact hmax a ha
        · exact (List.mem_singleton.mp ha).le
      refine ⟨b :: xs', m, ?_, (hperm.cons b).trans (.swap a b t), ?_⟩
      · rw [← List.cons_append, hpass, List.cons_append]
      · exact List.forall_mem_cons.mpr ⟨(hlt.trans_le ham).le, hmax⟩
    · obtain ⟨xs', m, hpass, hperm, hmax⟩ := ih (b :: t) ys hlen
      have hbm : b ≤ m := by
        rcases List.mem_append.mp (hperm.mem_iff.mpr List.mem_cons_self) with hb | hb
        · exact hmax b hb
        · exact (List.mem_singleton.mp hb).le
      refine ⟨a :: xs', m, ?_, hperm.cons a, ?_⟩
      · rw [← List.cons_append, hpass, List.cons_append]
      · exact List.forall_mem_cons.mpr ⟨(not_lt.mp hlt).trans hbm, hmax⟩

/-! ### The outer loop -/

theorem perm_passes (n : ℕ) (l : List α) : (passes n l).Perm l := by
  induction n generalizing l with
  | zero => exact .refl l
  | succ n ih => exact (ih _).trans (perm_pass (n + 1) l)

/-- The loop invariant: the elements past the first `n + 1` are sorted and none of the first
`n + 1` exceeds them. -/
theorem sorted_passes_append : ∀ (n : ℕ) (xs ys : List α), xs.length = n + 1 →
    ys.Pairwise (· ≤ ·) → (∀ x ∈ xs, ∀ y ∈ ys, x ≤ y) → (passes n (xs ++ ys)).Pairwise (· ≤ ·) := by
  intro n
  induction n with
  | zero =>
    intro xs ys hxs hys hle
    obtain ⟨a, rfl⟩ := List.length_eq_one_iff.mp hxs
    exact List.pairwise_cons.mpr ⟨hle a List.mem_cons_self, hys⟩
  | succ n ih =>
    intro xs ys hxs hys hle
    obtain ⟨xs', m, hpass, hperm, hmax⟩ := pass_append (n + 1) xs ys hxs
    have hmem : ∀ x ∈ xs' ++ [m], ∀ y ∈ ys, x ≤ y := fun x hx =>
      hle x (hperm.mem_iff.mp hx)
    rw [passes, hpass]
    -- the pass leaves its maximum in front of the sorted part
    refine ih xs' (m :: ys) ?_ (List.pairwise_cons.mpr ⟨hmem m (by simp), hys⟩) ?_
    · have := hperm.length_eq
      simp at this
      omega
    · intro x hx
      exact List.forall_mem_cons.mpr ⟨hmax x hx, hmem x (by simp [hx])⟩

/-- The outer loop sorts a list of `n + 1` elements. -/
theorem sorted_passes {n : ℕ} {l : List α} (hl : l.length = n + 1) :
    (passes n l).Pairwise (· ≤ ·) := by
  have h := sorted_passes_append n l [] hl List.Pairwise.nil (by simp)
  rwa [List.append_nil] at h

/-! ### In place -/

/-- The larger of the cells `j` and `j + 1` is carried to the second of them. -/
def compareSwap (cells : ℕ → α) (j : ℕ) : ℕ → α :=
  if cells j > cells (j + 1) then
    Function.update (Function.update cells j (cells (j + 1))) (j + 1) (cells j)
  else cells

/-- `for (j = 0; j < n; j++)` -/
def passInPlace (n : ℕ) (cells : ℕ → α) : ℕ → α := (List.range n).foldl compareSwap cells

/-- `for (i = 0; i < n; i++)`, with `n - i` steps in each pass. -/
def passesInPlace (n : ℕ) (cells : ℕ → α) : ℕ → α :=
  (List.range n).foldl (fun cells i => passInPlace (n - i) cells) cells

theorem compareSwap_of_lt {cells : ℕ → α} {i j : ℕ} (h : j + 1 < i) :
    compareSwap cells j i = cells i := by
  unfold compareSwap
  split_ifs
  · rw [Function.update_of_ne (by omega), Function.update_of_ne (by omega)]
  · rfl

/-- The first pair becomes the smaller and the larger of the two. -/
theorem compareSwap_zero (cells : ℕ → α) :
    compareSwap cells 0 0 = min (cells 0) (cells 1) ∧
      compareSwap cells 0 1 = max (cells 0) (cells 1) := by
  unfold compareSwap
  split_ifs with hlt
  · rw [Function.update_of_ne (by omega), Function.update_self, Function.update_self]
    exact ⟨(min_eq_right hlt.le).symm, (max_eq_left hlt.le).symm⟩
  · exact ⟨(min_eq_left (not_lt.mp hlt)).symm, (max_eq_right (not_lt.mp hlt)).symm⟩

/-- Behind the first cell the steps are those of the shifted array. -/
theorem compareSwap_succ (cells : ℕ → α) (j : ℕ) :
    compareSwap cells (j + 1) 0 = cells 0 ∧
      (fun i => compareSwap cells (j + 1) (i + 1)) =
        compareSwap (fun i => cells (i + 1)) j := by
  unfold compareSwap
  split_ifs
  · refine ⟨?_, funext fun i => ?_⟩
    · rw [Function.update_of_ne (by omega), Function.update_of_ne (by omega)]
    · simp only [Function.update_apply, Nat.add_right_cancel_iff]
  · exact ⟨rfl, rfl⟩

theorem foldl_compareSwap_succ (js : List ℕ) (cells : ℕ → α) :
    (js.map Nat.succ).foldl compareSwap cells 0 = cells 0 ∧
      (fun i => (js.map Nat.succ).foldl compareSwap cells (i + 1)) =
        js.foldl compareSwap fun i => cells (i + 1) := by
  induction js generalizing cells with
  | nil => exact ⟨rfl, rfl⟩
  | cons j js ih =>
    obtain ⟨hfirst, hrest⟩ := ih (compareSwap cells (j + 1))
    obtain ⟨hfirst', hrest'⟩ := compareSwap_succ cells j
    rw [List.map_cons, List.foldl_cons, List.foldl_cons, ← hrest']
    exact ⟨hfirst.trans hfirst', hrest⟩

theorem map_range_succ {β : Type*} (f : ℕ → β) (n : ℕ) :
    (List.range (n + 1)).map f = f 0 :: (List.range n).map fun i => f (i + 1) := by
  rw [List.range_succ_eq_map, List.map_cons, List.map_map]
  rfl

/-- The inner loop in place is the inner loop. -/
theorem map_passInPlace {n m : ℕ} (h : n < m) (cells : ℕ → α) :
    (List.range m).map (passInPlace n cells) = pass n ((List.range m).map cells) := by
  induction n generalizing m cells with
  | zero => exact (pass_zero _).symm
  | succ n ih =>
    obtain ⟨m, rfl⟩ : ∃ k, m = k + 2 := ⟨m - 2, by omega⟩
    obtain ⟨hmin, hmax⟩ := compareSwap_zero cells
    obtain ⟨hfirst, hrest⟩ := foldl_compareSwap_succ (List.range n) (compareSwap cells 0)
    have hsplit : passInPlace (n + 1) cells =
        ((List.range n).map Nat.succ).foldl compareSwap (compareSwap cells 0) := by
      rw [passInPlace, List.range_succ_eq_map, List.foldl_cons]
    -- the cells behind the first pair are not touched by the first step
    have htail : (List.range m).map (fun i => compareSwap cells 0 (i + 1 + 1)) =
        (List.range m).map fun i => cells (i + 1 + 1) :=
      List.map_congr_left fun i _ => compareSwap_of_lt (by omega)
    have hpass : (List.range (m + 1)).map (fun i => passInPlace (n + 1) cells (i + 1)) =
        pass n (max (cells 0) (cells 1) :: (List.range m).map fun i => cells (i + 1 + 1)) := by
      rw [hsplit, hrest, ← hmax, ← htail, ← map_range_succ fun i => compareSwap cells 0 (i + 1)]
      exact ih (by omega) _
    rw [map_range_succ, hpass, map_range_succ cells, map_range_succ fun i => cells (i + 1), hsplit,
      hfirst, hmin, pass]
    split_ifs with hlt
    · rw [min_eq_right hlt.le, max_eq_left hlt.le]
    · rw [min_eq_left (not_lt.mp hlt), max_eq_right (not_lt.mp hlt)]

theorem passInPlace_of_lt {n i : ℕ} (h : n < i) (cells : ℕ → α) :
    passInPlace n cells i = cells i := by
  induction n with
  | zero => rfl
  | succ n ih =>
    have hlast : passInPlace (n + 1) cells = compareSwap (passInPlace n cells) n := by
      unfold passInPlace
      rw [List.range_succ, List.foldl_append]
      rfl
    rw [hlast, compareSwap_of_lt h]
    exact ih (by omega)

theorem passesInPlace_succ (n : ℕ) (cells : ℕ → α) :
    passesInPlace (n + 1) cells = passesInPlace n (passInPlace (n + 1) cells) := by
  unfold passesInPlace
  rw [List.range_succ_eq_map, List.foldl_cons, List.foldl_map, Nat.sub_zero]
  simp only [Nat.succ_sub_succ_eq_sub]

/-- **The outer loop in place is the outer loop.** -/
theorem map_passesInPlace {n m : ℕ} (h : n < m) (cells : ℕ → α) :
    (List.range m).map (passesInPlace n cells) = passes n ((List.range m).map cells) := by
  induction n generalizing cells with
  | zero => rfl
  | succ n ih =>
    rw [passesInPlace_succ, passes, ih (by omega), map_passInPlace h]

theorem passesInPlace_of_lt {n i : ℕ} (h : n < i) (cells : ℕ → α) :
    passesInPlace n cells i = cells i := by
  induction n generalizing cells with
  | zero => rfl
  | succ n ih => rw [passesInPlace_succ, ih (by omega), passInPlace_of_lt h]

end BubbleSort

import Mathlib.Data.List.Basic
import Mathlib.Data.List.GetD
import Mathlib.Data.List.Sort
import Mathlib.Order.Lattice

/-!
# Order statistics of a list

`ofRank l r` is the element of rank `r` of a list, which any way of sorting it finds
(`getD_eq_ofRank`) and which a monotone function commutes with (`ofRank_map`).

At least `r + 1` elements are at most it (`succ_le_countP_ofRank`) and at least `length - r` are at
least it (`sub_le_countP_ofRank`).  Hence an interval with more than half of the elements has the
one of half rank (`ofRank_mem_of_majority`).
-/

namespace OrderStatistics

/-- Elements that exclude one another share the list. -/
theorem countP_le_sub {α : Type*} {l : List α} {p q : α → Bool}
    (h : ∀ x, p x = true → q x = false) : l.countP p ≤ l.length - l.countP q := by
  have hle : l.countP p ≤ l.countP fun x => decide (¬ q x = true) := by
    refine List.countP_mono_left fun x _ hx => decide_eq_true ?_
    rw [h x hx]
    exact Bool.false_ne_true
  have hsum := List.length_eq_countP_add_countP q (l := l)
  omega

variable {α : Type*} [LinearOrder α]

/-- In a sorted list the element of rank `r` has `r + 1` elements at most it. -/
theorem succ_le_countP_of_sorted {l : List α} (hl : l.Pairwise (· ≤ ·)) {r : ℕ}
    (hr : r < l.length) : r + 1 ≤ l.countP (· ≤ l[r]) := by
  have hall : ∀ x ∈ l.take (r + 1), x ≤ l[r] := by
    intro x hx
    obtain ⟨i, hi, rfl⟩ := List.mem_take_iff_getElem.mp hx
    rcases Nat.lt_or_ge i r with hir | hir
    · exact List.pairwise_iff_getElem.mp hl i r _ _ hir
    · have : i = r := by omega
      subst this
      exact le_rfl
  have hcount : (l.take (r + 1)).countP (· ≤ l[r]) = r + 1 := by
    rw [List.countP_eq_length.mpr fun x hx => decide_eq_true (hall x hx), List.length_take]
    omega
  rw [← hcount]
  exact (List.take_sublist _ _).countP_le

/-- In a sorted list the element of rank `r` has `length - r` elements at least it. -/
theorem sub_le_countP_of_sorted {l : List α} (hl : l.Pairwise (· ≤ ·)) {r : ℕ}
    (hr : r < l.length) : l.length - r ≤ l.countP (l[r] ≤ ·) := by
  have hall : ∀ x ∈ l.drop r, l[r] ≤ x := by
    intro x hx
    obtain ⟨i, hi, rfl⟩ := List.mem_drop_iff_getElem.mp hx
    rcases Nat.eq_zero_or_pos i with rfl | hpos
    · exact le_rfl
    · exact List.pairwise_iff_getElem.mp hl r (r + i) _ _ (by omega)
  have hcount : (l.drop r).countP (l[r] ≤ ·) = l.length - r := by
    rw [List.countP_eq_length.mpr fun x hx => decide_eq_true (hall x hx), List.length_drop]
  rw [← hcount]
  exact (List.drop_sublist _ _).countP_le

/-! ### The element of a rank -/

/-- The element of rank `r`, counted from 0; `d` past the end. -/
def ofRank (l : List α) (r : ℕ) (d : α) : α := (l.insertionSort (· ≤ ·)).getD r d

/-- A sorted permutation of the list has it at index `r`. -/
theorem getD_eq_ofRank {l s : List α} (hperm : s.Perm l) (hs : s.Pairwise (· ≤ ·)) (r : ℕ) (d : α) :
    s.getD r d = ofRank l r d := by
  have hsort : s.Perm (l.insertionSort (· ≤ ·)) :=
    hperm.trans (List.perm_insertionSort (· ≤ ·) l).symm
  rw [ofRank, ← hsort.eq_of_pairwise' hs (List.pairwise_insertionSort (· ≤ ·) l)]

/-- The order of the list has no part in it. -/
theorem ofRank_perm {l l' : List α} (h : l.Perm l') (r : ℕ) (d : α) :
    ofRank l r d = ofRank l' r d :=
  getD_eq_ofRank ((List.perm_insertionSort (· ≤ ·) l).trans h)
    (List.pairwise_insertionSort (· ≤ ·) l) r d

/-- A monotone function commutes with it. -/
theorem ofRank_map {β : Type*} [LinearOrder β] {f : α → β} (hf : Monotone f) (l : List α) (r : ℕ)
    (d : α) : ofRank (l.map f) r (f d) = f (ofRank l r d) := by
  have hsorted : ((l.insertionSort (· ≤ ·)).map f).Pairwise (· ≤ ·) :=
    (List.pairwise_insertionSort (· ≤ ·) l).map f fun _ _ h => hf h
  rw [← getD_eq_ofRank ((List.perm_insertionSort (· ≤ ·) l).map f) hsorted]
  exact List.getD_map _ d f

section

variable {l : List α} {r : ℕ}

theorem lt_length_insertionSort (hr : r < l.length) : r < (l.insertionSort (· ≤ ·)).length := by
  rwa [List.length_insertionSort]

theorem ofRank_mem (hr : r < l.length) (d : α) : ofRank l r d ∈ l := by
  rw [ofRank, ← List.getElem_eq_getD (h := lt_length_insertionSort hr) d,
    ← (List.perm_insertionSort (· ≤ ·) l).mem_iff]
  exact List.getElem_mem _

/-- At least `r + 1` elements are at most the one of rank `r`. -/
theorem succ_le_countP_ofRank (hr : r < l.length) (d : α) :
    r + 1 ≤ l.countP (· ≤ ofRank l r d) := by
  rw [ofRank, ← List.getElem_eq_getD (h := lt_length_insertionSort hr) d,
    ← (List.perm_insertionSort (· ≤ ·) l).countP_eq]
  exact succ_le_countP_of_sorted (List.pairwise_insertionSort (· ≤ ·) l) _

/-- At least `length - r` elements are at least it. -/
theorem sub_le_countP_ofRank (hr : r < l.length) (d : α) :
    l.length - r ≤ l.countP (ofRank l r d ≤ ·) := by
  have hperm := List.perm_insertionSort (· ≤ ·) l
  rw [ofRank, ← List.getElem_eq_getD (h := lt_length_insertionSort hr) d, ← hperm.countP_eq,
    ← hperm.length_eq]
  exact sub_le_countP_of_sorted (List.pairwise_insertionSort (· ≤ ·) l) _

/-- An interval with more than half of the elements has the one of half rank. -/
theorem ofRank_mem_of_majority {lo hi : α}
    (hmajority : l.length < 2 * l.countP fun x => decide (lo ≤ x ∧ x ≤ hi)) (d : α) :
    lo ≤ ofRank l (l.length / 2) d ∧ ofRank l (l.length / 2) d ≤ hi := by
  have hle := l.countP_le_length (p := fun x => decide (lo ≤ x ∧ x ≤ hi))
  have hmiddle : l.length / 2 < l.length := by omega
  constructor
  · -- else half of the list would be below `lo`
    by_contra hlow
    have hcount := succ_le_countP_ofRank hmiddle d
    have hout := countP_le_sub (l := l) (p := fun x => decide (x ≤ ofRank l (l.length / 2) d))
      (q := fun x => decide (lo ≤ x ∧ x ≤ hi)) fun x hx => by
        have hle := of_decide_eq_true hx
        exact decide_eq_false fun hin => hlow (hin.1.trans hle)
    omega
  · -- and here half of it above `hi`
    by_contra hhigh
    have hcount := sub_le_countP_ofRank hmiddle d
    have hout := countP_le_sub (l := l) (p := fun x => decide (ofRank l (l.length / 2) d ≤ x))
      (q := fun x => decide (lo ≤ x ∧ x ≤ hi)) fun x hx => by
        have hle := of_decide_eq_true hx
        exact decide_eq_false fun hin => hhigh (hle.trans hin.2)
    omega

/-- A value with more than half of the places has the one of half rank. -/
theorem ofRank_eq_of_majority {v : α} (h : l.length < 2 * l.count v) (d : α) :
    ofRank l (l.length / 2) d = v := by
  have hcount : l.count v = l.countP fun x => decide (v ≤ x ∧ x ≤ v) := by
    refine List.countP_congr fun x _ => ?_
    rw [beq_iff_eq, decide_eq_true_iff]
    exact ⟨fun hx => ⟨hx.ge, hx.le⟩, fun hx => le_antisymm hx.2 hx.1⟩
  rw [hcount] at h
  obtain ⟨hlo, hhi⟩ := ofRank_mem_of_majority h d
  exact le_antisymm hhi hlo

end

end OrderStatistics

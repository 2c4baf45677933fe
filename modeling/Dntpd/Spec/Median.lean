import Dntpd.Spec.Filter

/-!
# What `marx_median` does to its array

On the cells of the array `marx_median` does what the model does to the list of the first of them
(`marxMedianCells_eq`).  So it sorts them, and returns the lower one of the two in the middle
(`marxMedian_sortsAndSelects`).
-/

namespace Dntpd

/-- The first `count` cells of an array. -/
def firstCells (arr : ℕ → UInt64) (count : ℕ) : List UInt64 := (List.range count).map arr

@[simp] theorem length_firstCells (arr : ℕ → UInt64) (count : ℕ) :
    (firstCells arr count).length = count := by
  unfold firstCells
  rw [List.length_map, List.length_range]

theorem getD_firstCells (arr : ℕ → UInt64) {i count : ℕ} (h : i < count) (d : UInt64) :
    (firstCells arr count).getD i d = arr i := by
  rw [firstCells, List.getD_eq_getElem _ _ (by rwa [List.length_map, List.length_range]),
    List.getElem_map, List.getElem_range]

section

variable (arr : ℕ → UInt64) {count : ℕ}

/-- On the first cells the function is that of the model. -/
theorem marxMedianCells_eq (h : 1 ≤ count) :
    (marxMedianCells arr count).1 = (marxMedian (firstCells arr count)).1 ∧
      firstCells (marxMedianCells arr count).2 count = (marxMedian (firstCells arr count)).2 := by
  have hsorted : firstCells (BubbleSort.passesInPlace (count - 1) arr) count =
      BubbleSort.passes (count - 1) (firstCells arr count) :=
    BubbleSort.map_passesInPlace (by omega) arr
  have hcells : marxMedianCells arr count =
      (if count % 2 = 0 then BubbleSort.passesInPlace (count - 1) arr (count / 2 - 1)
        else BubbleSort.passesInPlace (count - 1) arr (count / 2),
      BubbleSort.passesInPlace (count - 1) arr) := by
    -- in the C the index is computed from a signed count, which is positive here
    unfold marxMedianCells
    rw [if_neg (by omega), show ((count : ℤ) - 1).toNat = count - 1 by omega,
      show ((count : ℤ) / 2 - 1).toNat = count / 2 - 1 by omega,
      show ((count : ℤ) / 2).toNat = count / 2 by omega]
    dsimp only
    congr 1
    split_ifs with heven hodd hodd
    · rfl
    · omega
    · omega
    · rfl
  have hmodel : marxMedian (firstCells arr count) =
      (if count % 2 = 0 then BubbleSort.passesInPlace (count - 1) arr (count / 2 - 1)
        else BubbleSort.passesInPlace (count - 1) arr (count / 2),
      firstCells (BubbleSort.passesInPlace (count - 1) arr) count) := by
    have hlow : count / 2 - 1 < count := by omega
    have hmiddle : count / 2 < count := by omega
    unfold marxMedian
    rw [length_firstCells, if_neg (by omega)]
    dsimp only
    rw [← hsorted, getD_firstCells _ hlow, getD_firstCells _ hmiddle]
  rw [hcells, hmodel]
  exact ⟨rfl, rfl⟩

/-- What is behind the first cells stays. -/
theorem marxMedianCells_of_le (h : 1 ≤ count) {i : ℕ} (hi : count ≤ i) :
    (marxMedianCells arr count).2 i = arr i := by
  unfold marxMedianCells
  rw [if_neg (by omega)]
  exact BubbleSort.passesInPlace_of_lt (by omega) arr

end

/-- The function sorts the first cells and returns the one of half rank, the lower of two. -/
structure SortsAndSelects (arr : ℕ → UInt64) (count : ℕ) : Prop where
  perm : (firstCells (marxMedianCells arr count).2 count).Perm (firstCells arr count)
  sorted : (firstCells (marxMedianCells arr count).2 count).Pairwise (· ≤ ·)
  rest : ∀ i, count ≤ i → (marxMedianCells arr count).2 i = arr i
  rank : (marxMedianCells arr count).1 = (marxMedianCells arr count).2 ((count - 1) / 2)
  mem : (marxMedianCells arr count).1 ∈ firstCells arr count
  half_le : count ≤ 2 * (firstCells arr count).countP (· ≤ (marxMedianCells arr count).1)
  half_ge : count ≤ 2 * (firstCells arr count).countP ((marxMedianCells arr count).1 ≤ ·)
  order : ∀ arr', (firstCells arr' count).Perm (firstCells arr count) →
    (marxMedianCells arr' count).1 = (marxMedianCells arr count).1

/-- **`marx_median` sorts and selects.** -/
theorem marxMedian_sortsAndSelects (arr : ℕ → UInt64) {count : ℕ} (h : 1 ≤ count) :
    SortsAndSelects arr count := by
  -- what is selected is the element of its rank, which does not depend on the order
  have hrank : ∀ arr' : ℕ → UInt64, (marxMedianCells arr' count).1 =
      OrderStatistics.ofRank (firstCells arr' count) ((count - 1) / 2) 0 := by
    intro arr'
    rw [(marxMedianCells_eq arr' h).1, marxMedian_eq, length_firstCells]
  have hlt : (count - 1) / 2 < (firstCells arr count).length := by
    rw [length_firstCells]
    omega
  have hcells : firstCells (marxMedianCells arr count).2 count =
      BubbleSort.passes (count - 1) (firstCells arr count) := by
    rw [(marxMedianCells_eq arr h).2, marxMedian, length_firstCells, if_neg (by omega)]
  have hperm : (firstCells (marxMedianCells arr count).2 count).Perm (firstCells arr count) := by
    rw [hcells]
    exact BubbleSort.perm_passes _ _
  have hsorted : (firstCells (marxMedianCells arr count).2 count).Pairwise (· ≤ ·) := by
    rw [hcells]
    exact BubbleSort.sorted_passes (by rw [length_firstCells]; omega)
  -- the clauses in the order of the structure: the sorting first, then the selecting
  constructor
  · exact hperm
  · exact hsorted
  · exact fun i => marxMedianCells_of_le arr h
  · rw [hrank, ← OrderStatistics.getD_eq_ofRank hperm hsorted, getD_firstCells _ (by omega)]
  · rw [hrank]
    exact OrderStatistics.ofRank_mem hlt 0
  · have hcount := OrderStatistics.succ_le_countP_ofRank hlt 0
    rw [hrank]
    omega
  · have hcount := OrderStatistics.sub_le_countP_ofRank hlt 0
    rw [length_firstCells] at hcount
    rw [hrank]
    omega
  · intro arr' horder
    rw [hrank, hrank]
    exact OrderStatistics.ofRank_perm horder _ 0

/-- Four values that are not in order, behind which the array holds zeros. -/
def unsortedCells : ℕ → UInt64 := fun i => [4, 1, 3, 2].getD i 0

/-- They are sorted, and of the two in the middle the lower one is returned. -/
theorem marxMedian_sortsAndSelects_four :
    SortsAndSelects unsortedCells 4 ∧ (marxMedianCells unsortedCells 4).1 = 2 ∧
      firstCells (marxMedianCells unsortedCells 4).2 4 = [1, 2, 3, 4] :=
  ⟨marxMedian_sortsAndSelects _ (by decide), by decide, by decide⟩

end Dntpd

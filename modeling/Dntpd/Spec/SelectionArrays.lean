import Dntpd.SelectionArrays

/-!
# Which cells of their arrays the selection among peers uses

`select_best_peers` bounds the count before it uses its array, `majority_vote` only the number of
offsets it copies, and `compute_system_offset` nothing.  So they stay within their arrays exactly
for the counts up to `MAX_PEERS` (`staysWithinArrays_iff`), and for these they are the functions of
`PeerSelection`.
-/

namespace Dntpd

open Proc

namespace Arrays

section

variable (a : SelectionArray) (offsets : ℕ → ℤ) (cells : ArrayCells)

/-! ### The median -/

/-- The loop writes the cells before its end. -/
theorem copy_state : ∀ n : ℕ, (copy a offsets n cells).state =
    Function.update cells a fun i => if i < n then offsets i else cells a i := by
  intro n
  induction n with
  | zero => exact (Function.update_eq_self a cells).symm
  | succ n ih =>
    rw [copy, bind_state, ih]
    dsimp only [write, bind_run, emit, update]
    rw [Function.update_self, Function.update_idem]
    refine congrArg (Function.update cells a) (funext fun i => ?_)
    rcases lt_trichotomy i n with hlt | rfl | hgt
    · rw [Function.update_of_ne hlt.ne, if_pos hlt, if_pos (by omega)]
    · rw [Function.update_self, if_pos (by omega)]
    · rw [Function.update_of_ne hgt.ne', if_neg (by omega), if_neg (by omega)]

/-- It does so in order. -/
theorem copy_trace : ∀ n : ℕ, (copy a offsets n cells).trace = (List.range n).map (a, ·) := by
  intro n
  induction n with
  | zero => rfl
  | succ n ih =>
    rw [copy, bind_trace, ih, List.range_succ, List.map_append, List.map_singleton]
    rfl

/-- The cells that the median of `count` offsets uses. -/
def medianUses (copied count : ℕ) : List ℕ :=
  List.range copied ++ (List.range count ++ [count / 2])

theorem median_trace (copied count : ℕ) :
    (median a offsets copied count cells).trace = (medianUses copied count).map (a, ·) := by
  unfold median medianUses
  rw [bind_trace, copy_trace, List.map_append, List.map_append]
  rfl

/-- What is copied is what is sorted if the bound of the copy is the count. -/
theorem median_ret {count : ℕ} (hpos : 0 < count) :
    (median a offsets count count cells).ret = medianOffset offsets count := by
  have hsort : sortOffsets (fun i => if i < count then offsets i else cells a i) count =
      sortOffsets offsets count := by
    unfold sortOffsets
    refine congrArg _ (List.map_congr_left fun i hi => if_pos (List.mem_range.mp hi))
  unfold median medianOffset
  rw [bind_ret, copy_state, bind_ret]
  dsimp only [qsort, get, bind_ret, bind_state, emit_state, read_ret, pure_ret]
  rw [Function.update_self, Function.update_self, if_pos (Nat.div_lt_self hpos (by decide)), hsort]

/-- The median stays within the array exactly if the copy and the sort do. -/
theorem median_inBounds_iff (copied : ℕ) {count : ℕ} (hpos : 0 < count) :
    (∀ use ∈ (median a offsets copied count cells).trace, use.2 < maxPeers) ↔
      copied ≤ maxPeers ∧ count ≤ maxPeers := by
  rw [median_trace, List.forall_mem_map]
  unfold medianUses
  constructor
  · intro h
    constructor
    · by_contra hover
      exact absurd (h maxPeers (List.mem_append_left _ (List.mem_range.mpr (by omega))))
        (lt_irrefl _)
    · have hlast := h (count - 1) (List.mem_append_right _
        (List.mem_append_left _ (List.mem_range.mpr (by omega))))
      dsimp only at hlast
      omega
  · rintro ⟨hcopied, hcount⟩ i hi
    rw [List.mem_append, List.mem_append, List.mem_range, List.mem_range, List.mem_singleton] at hi
    dsimp only
    omega

end

/-! ### The functions -/

section

variable (offsets : Option (ℕ → ℤ)) (jitter : ℕ → UInt64) {count : ℤ} (validIndices : ℕ → ℕ)
  (cells : ArrayCells)

theorem majorityVote_ret (hle : count ≤ maxPeers) :
    (majorityVote offsets count cells).ret = Dntpd.majorityVote offsets count := by
  unfold majorityVote Dntpd.majorityVote
  cases offsets with
  | none => rfl
  | some offsets =>
    dsimp only
    rw [ite_ret, ite_ret, ite_ret]
    by_cases hfew : count < 3
    · rw [if_pos hfew, if_pos hfew]
      rfl
    · rw [if_neg hfew, if_neg hfew, bind_ret, min_eq_left (by omega),
        median_ret _ _ _ (by omega)]
      rfl

theorem computeSystemOffset_ret (hle : count ≤ maxPeers) :
    (computeSystemOffset offsets count cells).ret = Dntpd.computeSystemOffset offsets count := by
  unfold computeSystemOffset Dntpd.computeSystemOffset
  cases offsets with
  | none => rfl
  | some offsets =>
    dsimp only
    rw [ite_ret]
    by_cases hpos : count < 1
    · rw [if_pos hpos, if_pos hpos]
      rfl
    · rw [if_neg hpos, if_neg hpos, bind_ret, median_ret _ _ _ (by omega), ite_ret, bind_ret,
        majorityVote_ret _ _ hle]
      rfl

/-- The bound of the count makes this the same for every count. -/
theorem selectBestPeers_ret (count : ℤ) :
    (selectBestPeers offsets jitter count validIndices cells).ret =
      Dntpd.selectBestPeers offsets jitter count validIndices := by
  unfold selectBestPeers Dntpd.selectBestPeers
  cases offsets with
  | none => rfl
  | some offsets =>
    dsimp only
    rw [ite_ret]
    by_cases hpos : count < 1
    · rw [if_pos hpos, if_pos hpos]
      rfl
    · have hclamped : 0 < min count.toNat maxPeers := by
        unfold maxPeers
        omega
      rw [if_neg hpos, if_neg hpos, bind_ret, median_ret _ _ _ hclamped, ite_ret]
      rfl

end

/-! ### Staying within the arrays -/

section

variable (offsets : ℕ → ℤ) (jitter : ℕ → UInt64) {count : ℤ} (validIndices : ℕ → ℕ)
  (cells : ArrayCells)

/-- Below three peers the vote does without its array. -/
theorem majorityVote_inBounds_iff :
    (∀ use ∈ (majorityVote (some offsets) count cells).trace, use.2 < maxPeers) ↔
      count ≤ maxPeers := by
  unfold majorityVote
  dsimp only
  rw [ite_trace, ite_trace, ite_trace]
  by_cases hfew : count < 3
  · refine iff_of_true ?_ (by unfold maxPeers; omega)
    rw [if_pos hfew]
    split_ifs <;> exact fun _ hu => absurd hu List.not_mem_nil
  · rw [if_neg (by omega), if_neg (by omega), if_neg hfew, bind_trace, pure_trace, List.append_nil,
      median_inBounds_iff _ _ _ _ (by omega)]
    omega

theorem selectBestPeers_inBounds (count : ℤ) :
    ∀ use ∈ (selectBestPeers (some offsets) jitter count validIndices cells).trace,
      use.2 < maxPeers := by
  unfold selectBestPeers
  dsimp only
  rw [ite_trace]
  by_cases hpos : count < 1
  · rw [if_pos hpos]
    exact fun _ hu => absurd hu List.not_mem_nil
  · have hclamped : 0 < min count.toNat maxPeers := by
      unfold maxPeers
      omega
    rw [if_neg hpos, bind_trace, ite_trace, pure_trace, pure_trace, ite_self, List.append_nil,
      median_inBounds_iff _ _ _ _ hclamped]
    exact ⟨min_le_right _ _, min_le_right _ _⟩

theorem computeSystemOffset_inBounds_iff (hpos : 1 ≤ count) :
    (∀ use ∈ (computeSystemOffset (some offsets) count cells).trace, use.2 < maxPeers) ↔
      count ≤ maxPeers := by
  unfold computeSystemOffset
  dsimp only
  rw [ite_trace, if_neg (by omega), bind_trace, List.forall_mem_append,
    median_inBounds_iff _ _ _ _ (by omega)]
  constructor
  · rintro ⟨⟨-, hle⟩, -⟩
    omega
  · intro hle
    refine ⟨⟨by omega, by omega⟩, ?_⟩
    rw [ite_trace, pure_trace, bind_trace, pure_trace, List.append_nil]
    split_ifs
    · exact fun _ hu => absurd hu List.not_mem_nil
    · exact (majorityVote_inBounds_iff offsets _).mpr hle

end

end Arrays

/-- Every cell that the three functions use exists. -/
structure StaysWithinArrays (offsets : ℕ → ℤ) (jitter : ℕ → UInt64) (count : ℤ)
    (validIndices : ℕ → ℕ) (cells : ArrayCells) : Prop where
  computeSystemOffset :
    ∀ use ∈ (Arrays.computeSystemOffset (some offsets) count cells).trace, use.2 < maxPeers
  majorityVote : ∀ use ∈ (Arrays.majorityVote (some offsets) count cells).trace, use.2 < maxPeers
  selectBestPeers :
    ∀ use ∈ (Arrays.selectBestPeers (some offsets) jitter count validIndices cells).trace,
      use.2 < maxPeers

/-- **The selection stays within its arrays** exactly for the counts up to `MAX_PEERS`. -/
theorem staysWithinArrays_iff (offsets : ℕ → ℤ) (jitter : ℕ → UInt64) {count : ℤ}
    (hpos : 1 ≤ count) (validIndices : ℕ → ℕ) (cells : ArrayCells) :
    StaysWithinArrays offsets jitter count validIndices cells ↔ count ≤ 8 := by
  constructor
  · exact fun h => (Arrays.majorityVote_inBounds_iff offsets cells).mp h.majorityVote
  · exact fun hle => ⟨(Arrays.computeSystemOffset_inBounds_iff offsets cells hpos).mpr hle,
      (Arrays.majorityVote_inBounds_iff offsets cells).mpr hle,
      Arrays.selectBestPeers_inBounds offsets jitter validIndices cells count⟩

/-- Eight peers fill the arrays. -/
theorem staysWithinArrays_eight :
    StaysWithinArrays (fun i => (i : ℤ)) (fun _ => 0) 8 (fun _ => 0) fun _ _ => 0 :=
  (staysWithinArrays_iff _ _ (by decide) _ _).mpr (by decide)

/-- Of nine peers the offset of the last is written past the end, and sorted. -/
theorem staysWithinArrays_nine_fails :
    ¬ StaysWithinArrays (fun i => (i : ℤ)) (fun _ => 0) 9 (fun _ => 0) (fun _ _ => 0) ∧
      (SelectionArray.computeSystemOffset, 8) ∈
        (Arrays.computeSystemOffset (some fun i => (i : ℤ)) 9 fun _ _ => 0).trace ∧
      (SelectionArray.majorityVote, 8) ∈
        (Arrays.majorityVote (some fun i => (i : ℤ)) 9 fun _ _ => 0).trace := by
  have hsort : (SelectionArray.majorityVote, 8) ∈
      (Arrays.majorityVote (some fun i => (i : ℤ)) 9 fun _ _ => 0).trace := by decide
  refine ⟨fun h => absurd (h.majorityVote _ hsort) (by decide), ?_, hsort⟩
  exact List.mem_append_left _ (by decide)

end Dntpd

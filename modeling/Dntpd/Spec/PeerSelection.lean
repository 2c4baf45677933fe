import Dntpd.Library.OrderStatistics
import Dntpd.PeerSelection
import Mathlib.Algebra.Order.Group.Abs
import Mathlib.Algebra.Order.Ring.Int

/-!
# What the selection among peers keeps

An interval with more than half of the offsets has their median (`medianOffset_mem`), whatever the
others are.  The vote returns the median or an offset near it (`majorityVote_near`), and the two
passes of the selection keep exactly the indices of offsets near it whose jitter is small
(`selectBestPeers_exact`).  The test of the selection and that of `compute_system_offset` differ at
the threshold itself (`falsetickerTests_agree_iff`).
-/

namespace Dntpd

open CInt

/-! ### The median -/

theorem compareInt64_nonpos_iff (a b : ℤ) : compareInt64 a b ≤ 0 ↔ a ≤ b := by
  unfold compareInt64
  split_ifs <;> omega

theorem sortOffsets_eq (offsets : ℕ → ℤ) (count : ℕ) :
    sortOffsets offsets count = ((List.range count).map offsets).insertionSort (· ≤ ·) := by
  unfold sortOffsets
  simp only [compareInt64_nonpos_iff]

/-- The median is the element of rank `count / 2`. -/
theorem medianOffset_eq (offsets : ℕ → ℤ) (count : ℕ) :
    medianOffset offsets count =
      OrderStatistics.ofRank ((List.range count).map offsets) (count / 2) 0 := by
  rw [medianOffset, sortOffsets_eq]
  rfl

/-- How many of the first `count` offsets lie in an interval. -/
def countInside (offsets : ℕ → ℤ) (count : ℕ) (lo hi : ℤ) : ℕ :=
  ((List.range count).map offsets).countP fun x => decide (lo ≤ x ∧ x ≤ hi)

theorem length_firstOffsets (offsets : ℕ → ℤ) (count : ℕ) :
    ((List.range count).map offsets).length = count := by
  rw [List.length_map, List.length_range]

/-- An interval with more than half of the offsets has the median. -/
theorem medianOffset_mem {offsets : ℕ → ℤ} {count : ℕ} {lo hi : ℤ}
    (hmajority : count < 2 * countInside offsets count lo hi) :
    lo ≤ medianOffset offsets count ∧ medianOffset offsets count ≤ hi := by
  have hlength := length_firstOffsets offsets count
  have hcount : ((List.range count).map offsets).length < 2 * countInside offsets count lo hi := by
    rwa [hlength]
  have hmem := OrderStatistics.ofRank_mem_of_majority hcount 0
  rw [hlength] at hmem
  rw [medianOffset_eq]
  exact hmem

/-- The median is one of the offsets. -/
theorem exists_eq_medianOffset (offsets : ℕ → ℤ) {count : ℕ} (hpos : 0 < count) :
    ∃ i < count, offsets i = medianOffset offsets count := by
  have hmiddle : count / 2 < ((List.range count).map offsets).length := by
    rw [length_firstOffsets]
    omega
  have hmem := OrderStatistics.ofRank_mem hmiddle 0
  rw [← medianOffset_eq] at hmem
  obtain ⟨i, hi, heq⟩ := List.mem_map.mp hmem
  exact ⟨i, List.mem_range.mp hi, heq⟩

/-! ### Distances -/

/-- Offsets below `2^62` have a difference that fits. -/
theorem int64_sub_eq {x y : ℤ} (hx : |x| < 2 ^ 62) (hy : |y| < 2 ^ 62) :
    int64 (x - y) = x - y ∧ int64 (-(x - y)) = -(x - y) := by
  rw [abs_lt] at hx hy
  exact ⟨int64_eq (by unfold InInt64; omega), int64_eq (by unfold InInt64; omega)⟩

theorem abs64_sub {x y : ℤ} (hx : |x| < 2 ^ 62) (hy : |y| < 2 ^ 62) :
    abs64 (int64 (x - y)) = |x - y| := by
  obtain ⟨hsub, hneg⟩ := int64_sub_eq hx hy
  unfold abs64
  rw [hsub, hneg]
  split_ifs with h
  · exact (abs_of_neg h).symm
  · exact (abs_of_nonneg (not_lt.mp h)).symm

theorem nearMedian_iff {x y : ℤ} (hx : |x| < 2 ^ 62) (hy : |y| < 2 ^ 62) :
    nearMedian x y = true ↔ |x - y| < 250000 := by
  obtain ⟨hsub, hneg⟩ := int64_sub_eq hx hy
  rw [abs_lt] at hx hy
  unfold nearMedian falsetickerThresholdUs int64Max
  dsimp only
  rw [hsub, hneg, abs_lt, Bool.and_eq_true, Bool.not_eq_true', decide_eq_false_iff_not,
    decide_eq_true_eq]
  split_ifs <;> omega

/-! ### The vote -/

/-- The last match is near the median, if there is one. -/
theorem foldl_countMatch_near {median : ℤ} (hmedian : |median| < 2 ^ 62) :
    ∀ (l : List ℤ) (s : ℤ × ℤ), (∀ x ∈ l, |x| < 2 ^ 62) → (0 < s.1 → |s.2 - median| < 250000) →
      0 < (l.foldl (countMatch median) s).1 →
      |(l.foldl (countMatch median) s).2 - median| < 250000 := by
  intro l
  induction l with
  | nil => exact fun _ _ hs => hs
  | cons x l ih =>
    intro s hbound hs
    refine ih _ (fun y hy => hbound y (List.mem_cons_of_mem x hy)) ?_
    unfold countMatch
    split_ifs with hnear
    · rw [abs64_sub (hbound x List.mem_cons_self) hmedian] at hnear
      exact fun _ => hnear
    · exact hs

/-- From three offsets on, the vote is less than the threshold away from their median. -/
theorem majorityVote_near {offsets : ℕ → ℤ} {count : ℤ} (hcount : 3 ≤ count)
    (hbound : ∀ i : ℕ, i < count → |offsets i| < 2 ^ 62) :
    |majorityVote (some offsets) count - medianOffset offsets count.toNat| < 250000 := by
  have hpos : 0 < count.toNat := by omega
  obtain ⟨i, hi, hmedian⟩ := exists_eq_medianOffset offsets hpos
  have hmedianBound : |medianOffset offsets count.toNat| < 2 ^ 62 := hmedian ▸ hbound i (by omega)
  have hall : ∀ x ∈ (List.range count.toNat).map offsets, |x| < 2 ^ 62 := by
    intro x hx
    obtain ⟨j, hj, rfl⟩ := List.mem_map.mp hx
    have := List.mem_range.mp hj
    exact hbound j (by omega)
  unfold majorityVote
  dsimp only
  rw [if_neg (by omega), if_neg (by omega), if_neg (by omega)]
  -- the last offset near the median, or the median itself where they are no majority
  split_ifs with hmajority
  · refine foldl_countMatch_near hmedianBound _ _ hall (fun h => absurd h (by decide)) ?_
    have hhalf : 0 ≤ count.tdiv 2 := Int.tdiv_nonneg (by omega) (by decide)
    omega
  · rw [sub_self]
    decide

/-! ### The selection -/

theorem looksAhead_selectNear (offsets : ℕ → ℤ) (median : ℤ) :
    Compaction.LooksAhead (selectNear offsets median) := fun _ _ _ _ => rfl

/-- The second pass reads an index before it writes at or below it. -/
theorem looksAhead_selectSteady (jitter : ℕ → UInt64) :
    Compaction.LooksAhead (selectSteady jitter) := by
  intro i a b h
  unfold selectSteady
  rw [h i le_rfl]

/-- The first pass leaves the indices of the offsets near the median. -/
theorem written_selectNear (offsets : ℕ → ℤ) (median : ℤ) (count : ℕ) (validIndices : ℕ → ℕ) :
    Compaction.written (Compaction.run (selectNear offsets median) count validIndices) =
      (List.range count).filter fun i => nearMedian (offsets i) median := by
  rw [Compaction.written_run (looksAhead_selectNear offsets median), ← List.filterMap_eq_filter]
  rfl

/-- The second pass leaves those of small jitter. -/
theorem written_selectSteady (jitter : ℕ → UInt64) (s : (ℕ → ℕ) × ℕ) :
    Compaction.written (Compaction.run (selectSteady jitter) s.2 s.1) =
      (Compaction.written s).filter fun i => jitter i ≤ jitterThresholdUs := by
  have hvalue : ∀ i, selectSteady jitter i s.1 =
      Option.guard (fun peerIdx => decide (jitter peerIdx ≤ jitterThresholdUs)) (s.1 i) := by
    intro i
    unfold selectSteady Option.guard
    by_cases h : jitter (s.1 i) ≤ jitterThresholdUs
    · simp [h]
    · simp [h, not_le.mp h]
  rw [Compaction.written_run (looksAhead_selectSteady jitter), ← List.filterMap_eq_filter]
  unfold Compaction.written
  rw [List.filterMap_map]
  exact List.filterMap_congr fun i _ => hvalue i

/-- The selection keeps exactly the peers whose offset is near the median and whose jitter is
small. -/
theorem selected_selectBestPeers (offsets : ℕ → ℤ) (jitter : ℕ → UInt64) {count : ℤ}
    (hcount : 1 ≤ count) (validIndices : ℕ → ℕ) :
    (selectBestPeers (some offsets) jitter count validIndices).ret = 0 ∧
      (selectBestPeers (some offsets) jitter count validIndices).selected =
        ((List.range (min count.toNat maxPeers)).filter fun i =>
          nearMedian (offsets i) (medianOffset offsets (min count.toNat maxPeers))).filter fun i =>
            jitter i ≤ jitterThresholdUs := by
  set c := min count.toNat maxPeers with hc
  set valid := Compaction.run (selectNear offsets (medianOffset offsets c)) c validIndices
    with hvalid
  have hnear : Compaction.written valid = _ :=
    written_selectNear offsets (medianOffset offsets c) c validIndices
  rw [← hnear, ← written_selectSteady]
  -- the first pass is on the offsets, the second on what it has left
  unfold selectBestPeers
  dsimp only
  rw [if_neg (by omega), ← hc, ← hvalid]
  split_ifs with hnone
  · -- without an offset near the median the second pass has no turn
    refine ⟨rfl, ?_⟩
    rw [hnone]
    rfl
  · exact ⟨rfl, rfl⟩

theorem medianOffset_bounded {offsets : ℕ → ℤ} {count : ℕ} (hpos : 0 < count)
    (hbound : ∀ i < count, |offsets i| < 2 ^ 62) : |medianOffset offsets count| < 2 ^ 62 := by
  obtain ⟨i, hi, heq⟩ := exists_eq_medianOffset offsets hpos
  rw [← heq]
  exact hbound i hi

theorem mem_selected_selectBestPeers {offsets : ℕ → ℤ} {count : ℤ} (hcount : 1 ≤ count)
    (hbound : ∀ i < min count.toNat maxPeers, |offsets i| < 2 ^ 62) (jitter : ℕ → UInt64)
    (validIndices : ℕ → ℕ) (i : ℕ) :
    i ∈ (selectBestPeers (some offsets) jitter count validIndices).selected ↔
      i < min count.toNat maxPeers ∧
        |offsets i - medianOffset offsets (min count.toNat maxPeers)| < 250000 ∧
        jitter i ≤ jitterThresholdUs := by
  have hpos : 0 < min count.toNat maxPeers := by
    unfold maxPeers
    omega
  rw [(selected_selectBestPeers offsets jitter hcount validIndices).2, List.mem_filter,
    List.mem_filter, List.mem_range, decide_eq_true_eq, and_assoc]
  refine and_congr_right fun hi => and_congr_left fun _ => ?_
  exact nearMedian_iff (hbound i hi) (medianOffset_bounded hpos hbound)

/-- The selected indices are strictly increasing. -/
theorem pairwise_selected_selectBestPeers (offsets : ℕ → ℤ) (jitter : ℕ → UInt64) {count : ℤ}
    (hcount : 1 ≤ count) (validIndices : ℕ → ℕ) :
    (selectBestPeers (some offsets) jitter count validIndices).selected.Pairwise (· < ·) := by
  rw [(selected_selectBestPeers offsets jitter hcount validIndices).2]
  exact (List.pairwise_lt_range.filter _).filter _

/-- **The selection is sound and complete**: of the first `c` peers it lists, in order, those less
than the threshold away from the offset of rank `c / 2` whose jitter is small. -/
theorem selectBestPeers_exact {offsets : ℕ → ℤ} {count : ℤ} (hcount : 1 ≤ count)
    (hbound : ∀ i < min count.toNat 8, |offsets i| < 2 ^ 62) (jitter : ℕ → UInt64)
    (validIndices : ℕ → ℕ) :
    let c := min count.toNat 8
    let m := OrderStatistics.ofRank ((List.range c).map offsets) (c / 2) 0
    let r := selectBestPeers (some offsets) jitter count validIndices
    r.ret = 0 ∧ r.selected.Pairwise (· < ·) ∧
      ∀ i, i ∈ r.selected ↔ i < c ∧ |offsets i - m| < 250000 ∧ jitter i ≤ 100000 := by
  intro c m r
  have hm : medianOffset offsets c = m := medianOffset_eq offsets c
  refine ⟨(selected_selectBestPeers offsets jitter hcount validIndices).1,
    pairwise_selected_selectBestPeers offsets jitter hcount validIndices, fun i => ?_⟩
  rw [← hm]
  exact mem_selected_selectBestPeers hcount hbound jitter validIndices i

/-- Of nine peers the ninth is not looked at. -/
theorem selectBestPeers_exact_nine :
    let r := selectBestPeers (some fun i => (i : ℤ) * 100000) (fun _ => 5) 9 fun _ => 0
    r.ret = 0 ∧ r.selected.Pairwise (· < ·) ∧
      ∀ i, i ∈ r.selected ↔ i < 8 ∧ |(i : ℤ) * 100000 - 400000| < 250000 ∧ 5 ≤ 100000 :=
  selectBestPeers_exact (by decide) (by decide) (fun _ => 5) fun _ => 0

/-! ### The two falseticker tests -/

theorem isFalseTicker_iff {x y : ℤ} (hx : |x| < 2 ^ 62) (hy : |y| < 2 ^ 62) :
    isFalseTicker x y = true ↔ |x - y| > 250000 := by
  unfold isFalseTicker
  rw [abs64_sub hx hy, decide_eq_true_eq]
  rfl

/-- The peers selected are those `compute_system_offset` takes for no falsetickers, and it counts as
many. -/
structure FalsetickerTestsAgree (offsets : ℕ → ℤ) (jitter : ℕ → UInt64) (count : ℤ)
    (validIndices : ℕ → ℕ) : Prop where
  mem_iff : ∀ i : ℕ, i < count →
    (i ∈ (selectBestPeers (some offsets) jitter count validIndices).selected ↔
      isFalseTicker (offsets i) (systemMedian offsets count.toNat) = false)
  count_eq : systemValid offsets count.toNat =
    (selectBestPeers (some offsets) jitter count validIndices).validCount

theorem length_selected (r : SelectResult) : r.selected.length = r.validCount := by
  rw [SelectResult.selected, List.length_map, List.length_range]

section

variable {offsets : ℕ → ℤ} {jitter : ℕ → UInt64} {count : ℤ}

/-- With small jitters the two tests agree on a peer exactly if its distance from the median is not
the threshold. -/
theorem selected_iff_not_isFalseTicker (hpos : 1 ≤ count) (hle : count ≤ 8)
    (hbound : ∀ i : ℕ, i < count → |offsets i| < 2 ^ 62)
    (hjitter : ∀ i : ℕ, i < count → jitter i ≤ 100000) (validIndices : ℕ → ℕ) {i : ℕ}
    (hi : i < count) :
    (i ∈ (selectBestPeers (some offsets) jitter count validIndices).selected ↔
        isFalseTicker (offsets i) (systemMedian offsets count.toNat) = false) ↔
      |offsets i - medianOffset offsets count.toNat| ≠ 250000 := by
  have hcount : min count.toNat maxPeers = count.toNat := by
    unfold maxPeers
    omega
  have hbound' : ∀ j < count.toNat, |offsets j| < 2 ^ 62 := fun j hj => hbound j (by omega)
  have hmedian := medianOffset_bounded (by omega) hbound'
  have hsteady : jitter i ≤ jitterThresholdUs := hjitter i hi
  rw [mem_selected_selectBestPeers hpos (by rwa [hcount]), hcount, systemMedian,
    and_iff_right (by omega), and_iff_left hsteady, ← Bool.not_eq_true,
    isFalseTicker_iff (hbound i hi) hmedian]
  -- one test is `< 250000`, the other `> 250000`
  omega

/-- The counts agree if the tests do. -/
theorem systemValid_eq (hpos : 1 ≤ count) (hle : count ≤ 8) (validIndices : ℕ → ℕ)
    (hmem : ∀ i : ℕ, i < count →
      (i ∈ (selectBestPeers (some offsets) jitter count validIndices).selected ↔
        isFalseTicker (offsets i) (systemMedian offsets count.toNat) = false)) :
    systemValid offsets count.toNat =
      (selectBestPeers (some offsets) jitter count validIndices).validCount := by
  have hcount : min count.toNat maxPeers = count.toNat := by
    unfold maxPeers
    omega
  have hselected := (selected_selectBestPeers offsets jitter hpos validIndices).2
  rw [hcount, List.filter_filter] at hselected
  rw [← length_selected, hselected, ← List.countP_eq_length_filter]
  refine List.countP_congr fun i hi => ?_
  have hi' := List.mem_range.mp hi
  have hagree := hmem i (by omega)
  rw [hselected, List.mem_filter, and_iff_right hi] at hagree
  rw [hagree, Bool.not_eq_true']

/-- **The two falseticker tests agree** exactly if no offset of the peers is the threshold away from
the one of rank `count / 2`: there one of them takes the peer for a falseticker and the other does
not. -/
theorem falsetickerTests_agree_iff (hpos : 1 ≤ count) (hle : count ≤ 8)
    (hbound : ∀ i : ℕ, i < count → |offsets i| < 2 ^ 62)
    (hjitter : ∀ i : ℕ, i < count → jitter i ≤ 100000) (validIndices : ℕ → ℕ) :
    FalsetickerTestsAgree offsets jitter count validIndices ↔
      ∀ i : ℕ, i < count → |offsets i - OrderStatistics.ofRank
        ((List.range count.toNat).map offsets) (count.toNat / 2) 0| ≠ 250000 := by
  rw [← medianOffset_eq]
  constructor
  · intro hagree i hi
    exact (selected_iff_not_isFalseTicker hpos hle hbound hjitter validIndices hi).mp
      (hagree.mem_iff i hi)
  · intro hdistance
    have hmem := fun (i : ℕ) (hi : i < count) =>
      (selected_iff_not_isFalseTicker hpos hle hbound hjitter validIndices hi).mpr (hdistance i hi)
    exact ⟨hmem, systemValid_eq hpos hle validIndices hmem⟩

end

/-- Two peers that are 249999 us apart. -/
theorem falsetickerTests_agree_two :
    FalsetickerTestsAgree (fun i => (i : ℤ) * 249999) (fun _ => 5) 2 fun _ => 0 :=
  (falsetickerTests_agree_iff (by decide) (by decide)
    (fun i hi => by
      have hall : ∀ j : Fin 2, |(j : ℤ) * 249999| < 2 ^ 62 := by decide
      exact hall ⟨i, by omega⟩)
    (fun _ _ => by decide) _).mpr fun i hi => by
      have hall : ∀ j : Fin 2, |(j : ℤ) * 249999 - 249999| ≠ 250000 := by decide
      exact hall ⟨i, by omega⟩

/-- Two peers that are 250000 us apart: one is selected, two are counted. -/
theorem falsetickerTests_disagree :
    ¬ FalsetickerTestsAgree (fun i => (i : ℤ) * 250000) (fun _ => 5) 2 (fun _ => 0) ∧
      (∀ i : Fin 2, |(i : ℤ) * 250000| < 2 ^ 62) := by
  refine ⟨fun hagree => ?_, by decide⟩
  have hcount : systemValid (fun i => (i : ℤ) * 250000) 2 ≠
      (selectBestPeers (some fun i => (i : ℤ) * 250000) (fun _ => 5) 2 fun _ => 0).validCount := by
    decide
  exact hcount hagree.count_eq

/-! ### Honest majorities -/

/-- More than half of the offsets of one to eight peers lie in an interval shorter than the
threshold. -/
structure HonestMajority (offsets : ℕ → ℤ) (count lo hi : ℤ) : Prop where
  count_pos : 1 ≤ count
  count_le : count ≤ 8
  bounded : ∀ i : ℕ, i < count → |offsets i| < 2 ^ 62
  narrow : hi - lo < 250000
  majority : count < 2 * countInside offsets count.toNat lo hi

section

variable {offsets : ℕ → ℤ} {count lo hi : ℤ}

theorem HonestMajority.median_mem (h : HonestMajority offsets count lo hi) :
    lo ≤ medianOffset offsets count.toNat ∧ medianOffset offsets count.toNat ≤ hi := by
  have hmajority := h.majority
  have hpos := h.count_pos
  exact medianOffset_mem (by omega)

/-- One or two peers with a majority in the interval all lie in it. -/
theorem HonestMajority.mem_of_le_two (h : HonestMajority offsets count lo hi) (hcount : count ≤ 2)
    {i : ℕ} (hi' : i < count) : lo ≤ offsets i ∧ offsets i ≤ hi := by
  have hmajority := h.majority
  have hpos := h.count_pos
  have hle : countInside offsets count.toNat lo hi ≤ count.toNat := by
    have hcountP := List.countP_le_length (l := (List.range count.toNat).map offsets)
      (p := fun x => decide (lo ≤ x ∧ x ≤ hi))
    rwa [length_firstOffsets] at hcountP
  have hall : countInside offsets count.toNat lo hi =
      ((List.range count.toNat).map offsets).length := by
    rw [length_firstOffsets]
    omega
  have hmem : offsets i ∈ (List.range count.toNat).map offsets :=
    List.mem_map_of_mem (List.mem_range.mpr (by omega))
  exact of_decide_eq_true (List.countP_eq_length.mp hall _ hmem)

/-- The vote is less than the threshold away from the interval. -/
theorem HonestMajority.majorityVote_mem (h : HonestMajority offsets count lo hi) :
    lo - 249999 ≤ majorityVote (some offsets) count ∧
      majorityVote (some offsets) count ≤ hi + 249999 := by
  have hpos := h.count_pos
  by_cases hlarge : 3 ≤ count
  · have hnear := abs_lt.mp (majorityVote_near hlarge h.bounded)
    have hmedian := h.median_mem
    omega
  have hfirst := h.mem_of_le_two (by omega) (i := 0) (by omega)
  unfold majorityVote
  dsimp only
  rw [if_neg (by omega)]
  by_cases hone : count = 1
  · rw [if_pos hone]
    omega
  -- of two offsets the mean is taken, which is truncated towards zero
  have hsecond := h.mem_of_le_two (by omega) (i := 1) (by omega)
  have hbound₀ := abs_lt.mp (h.bounded 0 (by omega))
  have hbound₁ := abs_lt.mp (h.bounded 1 (by omega))
  have hmean := tdiv_bounds (offsets 0 + offsets 1) (b := 2) (by decide)
  rw [if_neg hone, if_pos (by omega), int64_eq (by unfold InInt64; omega)]
  split_ifs <;> omega

/-- The selection keeps the honest peers of small jitter, and none that is far from them. -/
theorem HonestMajority.selected_iff (h : HonestMajority offsets count lo hi)
    (jitter : ℕ → UInt64) (validIndices : ℕ → ℕ) (i : ℕ) :
    i ∈ (selectBestPeers (some offsets) jitter count validIndices).selected ↔
      i < count ∧ |offsets i - medianOffset offsets count.toNat| < 250000 ∧ jitter i ≤ 100000 := by
  have hpos := h.count_pos
  have hle := h.count_le
  have hcount : min count.toNat maxPeers = count.toNat := by
    unfold maxPeers
    omega
  rw [mem_selected_selectBestPeers hpos (fun j hj => h.bounded j (by omega)), hcount,
    Int.lt_toNat]
  rfl

/-- A majority of peers that agree decides the vote and the selection, whatever the others
report. -/
theorem honestMajority_resilience (h : HonestMajority offsets count lo hi) :
    (lo - 249999 ≤ majorityVote (some offsets) count ∧
        majorityVote (some offsets) count ≤ hi + 249999) ∧
      ∀ (jitter : ℕ → UInt64) (validIndices : ℕ → ℕ),
        let r := selectBestPeers (some offsets) jitter count validIndices
        r.ret = 0 ∧
          (∀ i : ℕ, i < count → lo ≤ offsets i → offsets i ≤ hi → jitter i ≤ 100000 →
            i ∈ r.selected) ∧
          ∀ i ∈ r.selected, i < count ∧ lo - 249999 ≤ offsets i ∧ offsets i ≤ hi + 249999 := by
  refine ⟨h.majorityVote_mem, fun jitter validIndices => ?_⟩
  -- the median lies with the majority, and what is near it with the median
  have hmedian := h.median_mem
  have hnarrow := h.narrow
  have hselected := h.selected_iff jitter validIndices
  intro r
  refine ⟨(selected_selectBestPeers offsets jitter h.count_pos validIndices).1, ?_, ?_⟩
  · intro i hi' hlow hhigh hjitter
    refine (hselected i).mpr ⟨hi', ?_, hjitter⟩
    rw [abs_lt]
    omega
  · intro i hi'
    obtain ⟨hcount, hnear, -⟩ := (hselected i).mp hi'
    rw [abs_lt] at hnear
    omega

end

/-- Two honest peers and a third that is far off. -/
def sampleOffsets : ℕ → ℤ := fun i => [1000, 900000000, -1000].getD i 0

theorem honestMajority_resilience_sample :
    (-1000 - 249999 ≤ majorityVote (some sampleOffsets) 3 ∧
        majorityVote (some sampleOffsets) 3 ≤ 1000 + 249999) ∧
      (0 : ℕ) ∈ (selectBestPeers (some sampleOffsets) (fun _ => 5) 3 fun _ => 0).selected := by
  have hhonest : HonestMajority sampleOffsets 3 (-1000) 1000 := by
    refine ⟨by decide, by decide, fun i hi => ?_, by decide, by decide⟩
    have hall : ∀ j : Fin 3, |sampleOffsets j| < 2 ^ 62 := by decide
    exact hall ⟨i, by omega⟩
  obtain ⟨hvote, hselect⟩ := honestMajority_resilience hhonest
  obtain ⟨-, hkeeps, -⟩ := hselect (fun _ => 5) fun _ => 0
  exact ⟨hvote, hkeeps 0 (by decide) (by decide) (by decide) (by decide)⟩

end Dntpd

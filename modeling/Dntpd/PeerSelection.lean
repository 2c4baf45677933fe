import Mathlib.Data.List.Sort
import Dntpd.Library.Compaction
import Dntpd.NtpAlgorithms

/-!
# Selection among peers (`ntp_algorithms.c`)

An array behind a pointer is a function on its indices, `none` for a null pointer; the output
pointers are not null.  `majority_vote` copies at most `MAX_PEERS` offsets and sorts `count`, and
`compute_system_offset` copies `count` into an array of `MAX_PEERS`, so their models are those of
the counts up to `MAX_PEERS`.
-/

namespace Dntpd

open CInt

def falsetickerThresholdUs : ℤ := 250000
def jitterThresholdUs : UInt64 := 100000

/-- `compare_int64` -/
def compareInt64 (a b : ℤ) : ℤ := if a < b then -1 else if a > b then 1 else 0

/-- `qsort` with `compare_int64`, on a copy of the first `count` offsets. -/
def sortOffsets (offsets : ℕ → ℤ) (count : ℕ) : List ℤ :=
  ((List.range count).map offsets).insertionSort fun a b => compareInt64 a b ≤ 0

/-- `sorted[count / 2]` -/
def medianOffset (offsets : ℕ → ℤ) (count : ℕ) : ℤ :=
  (sortOffsets offsets count).getD (count / 2) 0

/-! ### The vote -/

/-- One turn of the loop that counts the offsets near the median: the count and the last of them. -/
def countMatch (median : ℤ) (s : ℤ × ℤ) (offset : ℤ) : ℤ × ℤ :=
  if abs64 (int64 (offset - median)) < falsetickerThresholdUs then (s.1 + 1, offset) else s

/-- `majority_vote` -/
def majorityVote (offsets : Option (ℕ → ℤ)) (count : ℤ) : ℤ :=
  match offsets with
  | none => 0
  | some offsets =>
    if count < 1 then 0
    else if count = 1 then offsets 0
    else if count < 3 then
      if offsets 0 = offsets 1 then offsets 0 else (int64 (offsets 0 + offsets 1)).tdiv 2
    else
      let median := medianOffset offsets count.toNat
      let matched := ((List.range count.toNat).map offsets).foldl (countMatch median) (0, 0)
      if matched.1 > count.tdiv 2 then matched.2 else median

/-! ### The selection -/

/-- What `select_best_peers` leaves: its return value, the array `valid_indices` and
`*valid_count`. -/
structure SelectResult where
  ret : ℤ
  validIndices : ℕ → ℕ
  validCount : ℕ

/-- The indices that were selected. -/
def SelectResult.selected (r : SelectResult) : List ℕ :=
  (List.range r.validCount).map r.validIndices

/-- The test of the first pass. -/
def nearMedian (offset median : ℤ) : Bool :=
  let diff := int64 (offset - median)
  let diff := if diff < 0 then int64 (-diff) else diff
  -- the second test never holds
  !(diff > int64Max) && diff < falsetickerThresholdUs

/-- The first pass writes the indices of the offsets near the median. -/
def selectNear (offsets : ℕ → ℤ) (median : ℤ) (i : ℕ) (_ : ℕ → ℕ) : Option ℕ :=
  if nearMedian (offsets i) median then some i else none

/-- The second pass goes over the array again and keeps the indices of small jitter. -/
def selectSteady (jitter : ℕ → UInt64) (i : ℕ) (validIndices : ℕ → ℕ) : Option ℕ :=
  let peerIdx := validIndices i
  if jitter peerIdx > jitterThresholdUs then none else some peerIdx

/-- `select_best_peers`; `validIndices` is what its output array holds before the call. -/
def selectBestPeers (offsets : Option (ℕ → ℤ)) (jitter : ℕ → UInt64) (count : ℤ)
    (validIndices : ℕ → ℕ) : SelectResult :=
  match offsets with
  | none => ⟨-1, validIndices, 0⟩
  | some offsets =>
    if count < 1 then ⟨-1, validIndices, 0⟩
    else
      let count := min count.toNat maxPeers
      let median := medianOffset offsets count
      let valid := Compaction.run (selectNear offsets median) count validIndices
      if valid.2 = 0 then ⟨0, valid.1, 0⟩
      else
        let filtered := Compaction.run (selectSteady jitter) valid.2 valid.1
        ⟨0, filtered.1, filtered.2⟩

/-! ### The combination -/

/-- `is_false_ticker` -/
def isFalseTicker (peerOffset clusterOffset : ℤ) : Bool :=
  abs64 (int64 (peerOffset - clusterOffset)) > falsetickerThresholdUs

/-- `median` of `compute_system_offset`, which sorts a copy of its own. -/
def systemMedian (offsets : ℕ → ℤ) (count : ℕ) : ℤ := medianOffset offsets count

/-- `valid` of `compute_system_offset`. -/
def systemValid (offsets : ℕ → ℤ) (count : ℕ) : ℕ :=
  (List.range count).countP fun i => !isFalseTicker (offsets i) (systemMedian offsets count)

/-- `compute_system_offset`: its return value and `*best_idx`. -/
def computeSystemOffset (offsets : Option (ℕ → ℤ)) (count : ℤ) : UInt8 × ℤ :=
  match offsets with
  | none => (16, 0)
  | some offsets =>
    if count < 1 then (16, 0)
    else if systemValid offsets count.toNat = 0 then (16, 0)
    else
      let majorityOffset := majorityVote (some offsets) count
      let majorityOffset := if majorityOffset > 127 then 127 else majorityOffset
      let majorityOffset := if majorityOffset < -128 then -128 else majorityOffset
      (UInt8.ofInt majorityOffset, 0)

end Dntpd

import Mathlib.Data.Rat.Floor
import Mathlib.Data.Nat.Sqrt
import Dntpd.Daemon
import Dntpd.Library.BubbleSort

/-!
# The MARX filter and the jitter of the samples (`filter.c`), on the live store `g_samples`

`marx_filter_outliers` walks the array by index while `marx_remove_sample` shifts it under the
walk; the loop keeps both.  Its arithmetic is unsigned 64-bit; the jitter's `long double` is read
as an exact rational.
-/

namespace Dntpd

/-! ### The store -/

/-- The entry behind the last one is written and counted; a full store takes nothing. -/
def SampleStore.add (s : SampleStore) (x : NtpSample) : SampleStore :=
  if h : s.count < maxSamples then ⟨Function.update s.entries s.count x, s.count + 1, h⟩ else s

/-- The entries behind `index` move down by one. -/
def SampleStore.remove (s : SampleStore) (index : ℕ) : SampleStore where
  entries i := if index ≤ i ∧ i + 1 < s.count then s.entries (i + 1) else s.entries i
  count := s.count - 1
  count_le := (Nat.sub_le _ _).trans s.count_le

/-- The assignment `samples[to] = samples[from]`. -/
def SampleStore.copy (s : SampleStore) (dst src : ℕ) : SampleStore :=
  { s with entries := Function.update s.entries dst (s.entries src) }

/-- `marx_add_sample_us`. -/
def marxAddSampleUs (tsNs delayUs : UInt64) (offsetUs : ℤ) : DProc Unit := do
  lock .gMutex
  Proc.update fun d => { d with samples := d.samples.add ⟨tsNs, delayUs, offsetUs⟩ }
  unlock .gMutex

/-- `marx_remove_sample`, for an index that is not negative. -/
def marxRemoveSample (index : ℕ) : DProc Unit := do
  let d ← Proc.read
  if index < d.samples.count then
    lock .gMutex
    Proc.update fun d => { d with samples := d.samples.remove index }
    unlock .gMutex
  else pure ()

/-! ### The threshold -/

/-- `marx_median`: the value it returns and the array it leaves. -/
def marxMedian (arr : List UInt64) : UInt64 × List UInt64 :=
  if arr.length = 0 then (0, arr)
  else
    let sorted := BubbleSort.passes (arr.length - 1) arr
    (if arr.length % 2 = 0 then sorted.getD (arr.length / 2 - 1) 0
      else sorted.getD (arr.length / 2) 0, sorted)

/-- `marx_median` on the cells of an array that is not null: the value it returns and the cells it
leaves. -/
def marxMedianCells (arr : ℕ → UInt64) (count : ℤ) : UInt64 × (ℕ → UInt64) :=
  if count ≤ 0 then (0, arr)
  else
    let sorted := BubbleSort.passesInPlace (count - 1).toNat arr
    (if count % 2 = 0 then sorted (count / 2 - 1).toNat else sorted (count / 2).toNat, sorted)

/-- The threshold `marx_filter_outliers` computes from the delays: median plus `k` times the median
absolute deviation, saturating. -/
def marxThreshold (delays : List UInt64) (k : ℤ) : UInt64 :=
  let median := (marxMedian delays).1
  let absDevs := delays.map fun x => if x > median then x - median else median - x
  let mad := (marxMedian absDevs).1
  let kmad : UInt64 :=
    if mad = 0 then 0
    else if k = 0 then 0
    else
      let k64 := UInt64.ofInt k
      if k64 > 18446744073709551615 / mad then 18446744073709551615
      else
        let kmad := k64 * mad
        if kmad > 18446744073709551615 - median then 18446744073709551615 else kmad
  if kmad = 0 then median
  else if kmad > 18446744073709551615 - median then 18446744073709551615
  else median + kmad

/-! ### The filter loop -/

/-- One turn of the loop: keep the sample at `i`, or remove it; the new value of `filtered`. -/
def marxFilterStep (threshold : UInt64) (i filtered : ℕ) : DProc ℕ := do
  let d ← Proc.read
  if (d.samples.entries i).delay ≤ threshold then
    Proc.update fun d =>
      if filtered ≠ i then { d with samples := d.samples.copy filtered i } else d
    return filtered + 1
  else
    -- the entries behind `i` move down, so the next turn passes one over
    marxRemoveSample i
    return filtered

/-- `n` turns of the loop from `i`. -/
def marxFilterLoop (threshold : UInt64) : ℕ → ℕ → ℕ → DProc ℕ
  | 0, _, filtered => return filtered
  | n + 1, i, filtered => do
    let filtered ← marxFilterStep threshold i filtered
    marxFilterLoop threshold n (i + 1) filtered

/-- `marx_filter_outliers(g_samples, count, k)`. -/
def marxFilterOutliers (count : ℕ) (k : ℤ) : DProc ℕ := do
  if count < 3 then return count
  else
    let d ← Proc.read
    let count := min count maxSamples
    let delays := (List.range count).map fun i => (d.samples.entries i).delay
    let filtered ← marxFilterLoop (marxThreshold delays k) count 0 0
    return if filtered < count then filtered else count

/-! ### Jitter -/

/-- The sample variance of the offsets. -/
def offsetVariance (offsets : List ℤ) : ℚ :=
  let n : ℚ := offsets.length
  let mean := (offsets.map fun x => (x : ℚ)).sum / n
  (offsets.map fun x => ((x : ℚ) - mean) * ((x : ℚ) - mean)).sum / (n - 1)

/-- `ntp_offset_jitter_us_locked`, which locks. -/
def ntpOffsetJitterUsLocked : DProc UInt64 := do
  lock .gMutex
  let d ← Proc.read
  unlock .gMutex
  if d.samples.count ≤ 1 then return 0
  else
    let var := offsetVariance
      ((List.range d.samples.count).map fun i => (d.samples.entries i).offset)
    return if var > 18446744073709551615 * 18446744073709551615 then 18446744073709551615
      else UInt64.ofNat (Nat.sqrt ⌊var⌋₊)

end Dntpd

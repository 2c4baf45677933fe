import Dntpd.Library.ShiftingWalk
import Dntpd.Spec.SampleWindow
import Dntpd.Spec.SyncAccept

/-!
# What the MARX filter leaves of the samples

The threshold is the median of the delays plus `k` times their median absolute deviation, saturated
(`toNat_marxThreshold`).  The loop is the walk of `ShiftingWalk` over the samples, on an array whose
entries from the index on are the samples shifted by the number of removals (`Shifted`).

So the filter is exact precisely if the outliers lie harmlessly among the samples
(`marxFilterOutliers_exact_iff`), and it always keeps a sample and leaves no fewer than it reports
(`marxFilterOutliers_bounds`).
-/

namespace Dntpd

open Proc

/-! ### The threshold -/

/-- The element of half rank, the lower one of the two in the middle. -/
def lowerMedian (l : List ℕ) : ℕ := OrderStatistics.ofRank l ((l.length - 1) / 2) 0

/-- The lower median plus `k` times the lower median of the absolute deviations, saturated at the
largest 64-bit value. -/
def madThreshold (delays : List ℕ) (k : ℕ) : ℕ :=
  let m := lowerMedian delays
  min (2 ^ 64 - 1) (m + k * lowerMedian (delays.map fun x : ℕ => ((x : ℤ) - m).natAbs))

theorem toNat_marxMedian (arr : List UInt64) :
    (marxMedian arr).1.toNat = lowerMedian (arr.map UInt64.toNat) := by
  have hmono : Monotone UInt64.toNat := fun _ _ h => UInt64.le_iff_toNat_le.mp h
  rw [marxMedian_eq, lowerMedian, List.length_map]
  exact (OrderStatistics.ofRank_map hmono arr _ 0).symm

/-- The distance of two words, computed without going below 0. -/
theorem toNat_absDev (x m : UInt64) :
    (if x > m then x - m else m - x).toNat = ((x.toNat : ℤ) - m.toNat).natAbs := by
  split_ifs with h
  · have hle : m ≤ x := le_of_lt h
    rw [UInt64.toNat_sub_of_le _ _ hle]
    have := UInt64.le_iff_toNat_le.mp hle
    omega
  · have hle : x ≤ m := not_lt.mp h
    rw [UInt64.toNat_sub_of_le _ _ hle]
    have := UInt64.le_iff_toNat_le.mp hle
    omega

/-- The sum of the source, which stops at the largest word. -/
theorem toNat_saturatedSum (median kmad : UInt64) :
    (if kmad = 0 then median
      else if kmad > 18446744073709551615 - median then 18446744073709551615
      else median + kmad).toNat = min (2 ^ 64 - 1) (median.toNat + kmad.toNat) := by
  have hmedian := median.toNat_lt
  have hmax : median ≤ 18446744073709551615 := by
    rw [UInt64.le_iff_toNat_le]
    exact Nat.le_of_lt_succ hmedian
  have hword : (18446744073709551615 : UInt64).toNat = 18446744073709551615 := rfl
  have hroom := UInt64.toNat_sub_of_le _ _ hmax
  split_ifs with h0 hbig
  · rw [h0, UInt64.toNat_zero]
    omega
  · have := UInt64.lt_iff_toNat_lt.mp hbig
    omega
  · have := UInt64.le_iff_toNat_le.mp (not_lt.mp hbig)
    rw [UInt64.toNat_add]
    omega

/-- The product of the source, which stops there too, does not change the saturated sum. -/
theorem saturatedSum_product (median k mad : UInt64) (hmad : mad ≠ 0) :
    min (2 ^ 64 - 1) (median.toNat +
      (if k > 18446744073709551615 / mad then 18446744073709551615
        else if k * mad > 18446744073709551615 - median then 18446744073709551615
        else k * mad).toNat) = min (2 ^ 64 - 1) (median.toNat + k.toNat * mad.toNat) := by
  have hpos : 0 < mad.toNat := by
    rcases Nat.eq_zero_or_pos mad.toNat with h0 | h0
    · exact absurd (UInt64.toNat_inj.mp h0) hmad
    · exact h0
  have hword : (18446744073709551615 : UInt64).toNat = 18446744073709551615 := rfl
  -- the guard divides, so that it does not overflow itself
  have hguard : k > 18446744073709551615 / mad ↔ 18446744073709551615 < k.toNat * mad.toNat := by
    rw [gt_iff_lt, UInt64.lt_iff_toNat_lt, UInt64.toNat_div, Nat.div_lt_iff_lt_mul hpos, hword]
  have hmedian := median.toNat_lt
  have hroom : (18446744073709551615 - median).toNat = 18446744073709551615 - median.toNat := by
    rw [UInt64.toNat_sub_of_le _ _ ?_, hword]
    rw [UInt64.le_iff_toNat_le, hword]
    omega
  -- the three outcomes of the guards
  split_ifs with hbig hsum
  · have := hguard.mp hbig
    omega
  · -- no overflow of the product, but one of the sum
    have hfits := mt hguard.mpr hbig
    have hlt := UInt64.lt_iff_toNat_lt.mp hsum
    rw [hroom, UInt64.toNat_mul, Nat.mod_eq_of_lt (by omega)] at hlt
    omega
  · -- neither overflows
    have hfits := mt hguard.mpr hbig
    rw [UInt64.toNat_mul, Nat.mod_eq_of_lt (by omega)]

/-- The words of the threshold saturate, and so does their value. -/
theorem toNat_marxThreshold (delays : List UInt64) {k : ℤ} (hk : 0 ≤ k) (hmax : k ≤ 2147483647) :
    (marxThreshold delays k).toNat = madThreshold (delays.map UInt64.toNat) k.toNat := by
  unfold marxThreshold madThreshold
  dsimp only
  rw [← toNat_marxMedian]
  -- the deviations are the same whether they are subtracted as words or as numbers
  have hdevs : ((delays.map UInt64.toNat).map fun x : ℕ =>
      ((x : ℤ) - (marxMedian delays).1.toNat).natAbs) =
        (delays.map fun x => if x > (marxMedian delays).1 then x - (marxMedian delays).1
          else (marxMedian delays).1 - x).map UInt64.toNat := by
    rw [List.map_map, List.map_map]
    exact List.map_congr_left fun x _ => (toNat_absDev x _).symm
  rw [hdevs, ← toNat_marxMedian]
  generalize (marxMedian delays).1 = median
  generalize (marxMedian
    (delays.map fun x => if x > median then x - median else median - x)).1 = mad
  have hk64 : (UInt64.ofInt k).toNat = k.toNat := by
    unfold UInt64.ofInt
    rw [UInt64.toNat_ofNat']
    -- without deviations or with `k = 0` nothing is multiplied
    omega
  rw [toNat_saturatedSum]
  by_cases hmad : mad = 0
  · rw [if_pos hmad, hmad, UInt64.toNat_zero, Nat.mul_zero]
  by_cases hk0 : k = 0
  · rw [if_neg hmad, if_pos hk0, hk0, UInt64.toNat_zero, Int.toNat_zero, Nat.zero_mul]
  · rw [if_neg hmad, if_neg hk0, saturatedSum_product _ _ _ hmad, hk64]

/-! ### The store -/

/-- `g_samples[0..r)`. -/
def SampleStore.first (s : SampleStore) (r : ℕ) : List NtpSample := (List.range r).map s.entries

namespace SampleStore

theorem first_congr {s s' : SampleStore} {r : ℕ} (h : ∀ j < r, s.entries j = s'.entries j) :
    s.first r = s'.first r :=
  List.map_congr_left fun j hj => h j (List.mem_range.mp hj)

@[simp] theorem length_first (s : SampleStore) (r : ℕ) : (s.first r).length = r := by
  rw [first, List.length_map, List.length_range]

theorem copy_self (s : SampleStore) (i : ℕ) : s.copy i i = s := by
  rw [copy, Function.update_eq_self]

theorem first_copy (s : SampleStore) (dst src : ℕ) :
    (s.copy dst src).first (dst + 1) = s.first dst ++ [s.entries src] := by
  have hlast : (s.copy dst src).entries dst = s.entries src := Function.update_self dst _ s.entries
  rw [first, List.range_succ, List.map_append, List.map_singleton, hlast]
  refine congrArg (· ++ _) (first_congr fun j hj => ?_)
  exact Function.update_of_ne hj.ne _ s.entries

theorem first_removeAt (s : SampleStore) {r i : ℕ} (h : r ≤ i) :
    (s.removeAt i).first r = s.first r := by
  refine first_congr fun j hj => ?_
  unfold removeAt
  split_ifs
  · show (if i ≤ j ∧ j + 1 < s.count then _ else _) = _
    rw [if_neg (by omega)]
  · rfl

end SampleStore

/-! ### The loop is a walk -/

/-- `samples[i].delay <= threshold`. -/
def NtpSample.within (threshold : UInt64) (x : NtpSample) : Bool := decide (x.delay ≤ threshold)

section Walk

open ShiftingWalk

/-- The store after turns that removed `r` samples, at index `i`: from there on the entries are the
samples `orig` moved down by `r`, with the last one in the places behind. -/
structure Shifted (orig : List NtpSample) (i r : ℕ) (s : SampleStore) : Prop where
  count : s.count + r = orig.length
  entries : ∀ j, i ≤ j → j < orig.length →
    orig[min (j + r) (orig.length - 1)]? = some (s.entries j)

variable {orig : List NtpSample} {last : NtpSample} {i r : ℕ} {s : SampleStore}

/-- The entry at the index is the next sample, or the last one. -/
theorem Shifted.headD (h : Shifted orig i r s) (hlast : orig.getLast? = some last)
    (hi : i < orig.length) : (orig.drop (i + r)).headD last = s.entries i := by
  have hentry := h.entries i le_rfl hi
  rw [List.headD_eq_head?_getD, List.head?_drop]
  rcases Nat.lt_or_ge (i + r) orig.length with hlt | hge
  · rw [min_eq_left (by omega)] at hentry
    rw [hentry, Option.getD_some]
  · rw [min_eq_right (by omega), ← List.getLast?_eq_getElem?, hlast] at hentry
    rw [List.getElem?_eq_none hge, Option.getD_none]
    exact Option.some.inj hentry

theorem Shifted.copy (h : Shifted orig i r s) {dst : ℕ} (hdst : dst ≤ i) :
    Shifted orig (i + 1) r (s.copy dst i) where
  count := h.count
  entries j hij hj := by
    have hne : j ≠ dst := by omega
    have hentry : (s.copy dst i).entries j = s.entries j :=
      Function.update_of_ne hne _ s.entries
    rw [hentry]
    exact h.entries j (by omega) hj

theorem Shifted.removed (h : Shifted orig i r s) :
    Shifted orig (i + 1) (r + min 1 (orig.drop (i + r)).length) (s.removeAt i) := by
  have hcount := h.count
  rw [List.length_drop]
  unfold SampleStore.removeAt
  split_ifs with hi
  · rw [min_eq_left (by omega)]
    -- one entry more has been removed, and those behind `i` have moved down
    refine ⟨?_, fun j hij hj => ?_⟩
    · show s.count - 1 + (r + 1) = _
      omega
    · show _ = some (if i ≤ j ∧ j + 1 < s.count then _ else _)
      split_ifs with hshift
      · rw [← h.entries (j + 1) (by omega) (by omega)]
        congr 2
        omega
      · rw [← h.entries j (by omega) hj, min_eq_right (by omega), min_eq_right (by omega)]
  · -- the index is past the end of what is left
    have hzero : orig.length - (i + r) = 0 := by omega
    rw [hzero, Nat.min_zero, Nat.add_zero]
    exact ⟨hcount, fun j hij hj => h.entries j (by omega) hj⟩

/-- After a removal the next index is two samples further on, or past the end as before. -/
theorem drop_skip : orig.drop (i + 1 + (r + min 1 (orig.drop (i + r)).length)) =
    (orig.drop (i + r)).drop 2 := by
  rw [List.drop_drop, List.length_drop]
  rcases Nat.lt_or_ge (i + r) orig.length with hlt | hge
  · rw [min_eq_left (by omega)]
    congr 1
    omega
  · rw [List.drop_eq_nil_of_le (by omega), List.drop_eq_nil_of_le (by omega)]

/-- The store that a turn leaves which keeps the entry. -/
theorem marxFilterStep_samples_of_le {threshold : UInt64} {filtered : ℕ} {d : Daemon}
    (h : (d.samples.entries i).delay ≤ threshold) :
    (marxFilterStep threshold i filtered d).state.samples = d.samples.copy filtered i := by
  unfold marxFilterStep
  by_cases hne : filtered = i
  · simp [h, hne, SampleStore.copy_self]
  · simp [h, hne]

/-- One turn of the loop is one turn of the walk. -/
theorem marxFilterStep_walk (threshold : UInt64) (hlast : orig.getLast? = some last)
    (filtered : ℕ) {d : Daemon} (hi : i < orig.length) (hfiltered : filtered ≤ i)
    (h : Shifted orig i r d.samples) :
    let step := marxFilterStep threshold i filtered d
    ∃ r', Shifted orig (i + 1) r' step.state.samples ∧ step.ret ≤ i + 1 ∧ ∀ n,
      step.state.samples.first step.ret ++
          kept (NtpSample.within threshold) last n (orig.drop (i + 1 + r')) =
        d.samples.first filtered ++
          kept (NtpSample.within threshold) last (n + 1) (orig.drop (i + r)) ∧
      step.state.samples.count +
          removed (NtpSample.within threshold) (n + 1) (orig.drop (i + r)) =
        d.samples.count + removed (NtpSample.within threshold) n (orig.drop (i + 1 + r')) := by
  intro step
  have hhead := h.headD hlast hi
  rcases le_or_gt (d.samples.entries i).delay threshold with hle | hgt
  · -- within the threshold the entry is copied down, and the offset of the walk stays
    have hgood : NtpSample.within threshold ((orig.drop (i + r)).headD last) = true := by
      rw [hhead]
      exact decide_eq_true hle
    have hret : step.ret = filtered + 1 := marxFilterStep_of_le hle
    have hsamples : step.state.samples = d.samples.copy filtered i :=
      marxFilterStep_samples_of_le hle
    refine ⟨r, ?_, by omega, fun n => ?_⟩
    · rw [hsamples]
      exact h.copy hfiltered
    obtain ⟨hkept, hremoved⟩ := ShiftingWalk.kept_succ_of_good hgood n
    have htail : (orig.drop (i + r)).tail = orig.drop (i + 1 + r) := by
      rw [List.tail_drop]
      congr 1
      omega
    rw [hkept, hremoved, htail, hhead, hret, hsamples, SampleStore.first_copy, List.append_assoc]
    exact ⟨rfl, rfl⟩
  · -- beyond it the entry is removed, and every later one is read one place further on
    have hbad : NtpSample.within threshold ((orig.drop (i + r)).headD last) = false := by
      rw [hhead]
      exact decide_eq_false (not_le.mpr hgt)
    have hret : step.ret = filtered := (marxFilterStep_of_lt filtered hgt).1
    have hsamples : step.state.samples = d.samples.removeAt i :=
      (marxFilterStep_of_lt filtered hgt).2
    have hshifted : Shifted orig (i + 1) (r + min 1 (orig.drop (i + r)).length)
        step.state.samples := by
      rw [hsamples]
      exact h.removed
    refine ⟨_, hshifted, by omega, fun n => ?_⟩
    obtain ⟨hkept, hremoved⟩ := ShiftingWalk.kept_succ_of_bad hbad n
    rw [hkept, hremoved, drop_skip]
    refine ⟨?_, ?_⟩
    · rw [hret, hsamples, SampleStore.first_removeAt _ hfiltered]
    · have hbefore := h.count
      have hafter := hshifted.count
      omega

/-- The loop keeps what the walk keeps, behind what it kept before, and leaves the samples that the
walk does not remove. -/
theorem marxFilterLoop_walk (threshold : UInt64) (hlast : orig.getLast? = some last)
    (n filtered : ℕ) {d : Daemon} (hn : i + n = orig.length) (hfiltered : filtered ≤ i)
    (h : Shifted orig i r d.samples) :
    let o := marxFilterLoop threshold n i filtered d
    o.state.samples.first o.ret =
        d.samples.first filtered ++
          kept (NtpSample.within threshold) last n (orig.drop (i + r)) ∧
      o.state.samples.count + removed (NtpSample.within threshold) n (orig.drop (i + r)) =
        d.samples.count := by
  induction n generalizing i r filtered d with
  | zero => exact ⟨(List.append_nil _).symm, rfl⟩
  | succ n ih =>
    -- the first turn, and the walk from what it leaves
    obtain ⟨r', hshifted, hret, hstep⟩ :=
      marxFilterStep_walk threshold hlast filtered (by omega) hfiltered h
    obtain ⟨hkept, hremoved⟩ := hstep n
    obtain ⟨hfirst, hcount⟩ := ih _ (by omega) hret hshifted
    refine ⟨?_, ?_⟩
    · rw [← hkept]
      exact hfirst
    · have hloop : (marxFilterLoop threshold (n + 1) i filtered d).state.samples.count =
          (marxFilterLoop threshold n (i + 1) (marxFilterStep threshold i filtered d).ret
            (marxFilterStep threshold i filtered d).state).state.samples.count := rfl
      rw [hloop]
      omega

end Walk

/-! ### The filter -/

/-- The last sample of a store. -/
def SampleStore.last (s : SampleStore) : NtpSample := s.entries (s.count - 1)

theorem getLast?_toList {s : SampleStore} (h : 1 ≤ s.count) : s.toList.getLast? = some s.last := by
  obtain ⟨m, hm⟩ := Nat.exists_eq_add_of_le' h
  rw [SampleStore.toList, SampleStore.last, hm, List.range_succ, List.map_append,
    List.map_singleton, List.getLast?_concat, Nat.add_sub_cancel]

theorem shifted_toList (s : SampleStore) : Shifted s.toList 0 0 s where
  count := by rw [SampleStore.length_toList, Nat.add_zero]
  entries j _ hj := by
    rw [SampleStore.length_toList] at *
    rw [Nat.add_zero, min_eq_left (by omega), SampleStore.toList, List.getElem?_map,
      List.getElem?_range hj]
    rfl

/-- A sample within the threshold of the source. -/
def SampleStore.passes (s : SampleStore) (k : ℤ) : NtpSample → Bool :=
  NtpSample.within (marxThreshold s.delays k)

/-- What the filter returns and leaves is what the walk over the samples keeps and removes. -/
theorem marxFilterOutliers_walk {d : Daemon} (h : 3 ≤ d.samples.count) (k : ℤ) :
    (marxFilterOutliers d.samples.count k d).state.samples.first
        (marxFilterOutliers d.samples.count k d).ret =
      ShiftingWalk.kept (d.samples.passes k) d.samples.last d.samples.count d.samples.toList ∧
    (marxFilterOutliers d.samples.count k d).state.samples.count +
      ShiftingWalk.removed (d.samples.passes k) d.samples.count d.samples.toList =
        d.samples.count := by
  have hlength := SampleStore.length_toList d.samples
  have hmin : min d.samples.count maxSamples = d.samples.count := min_eq_left d.samples.count_le
  obtain ⟨hfirst, hcount⟩ := marxFilterLoop_walk (marxThreshold d.samples.delays k)
    (getLast?_toList (by omega)) d.samples.count 0 (by omega) le_rfl (shifted_toList d.samples)
  set loop := marxFilterLoop (marxThreshold d.samples.delays k) d.samples.count 0 0 d with hloop
  -- the loop keeps at most as many entries as there are, so the last test changes nothing
  have hle : loop.ret ≤ d.samples.count := by
    have hlen := congrArg List.length hfirst
    rw [SampleStore.length_first, List.length_append, SampleStore.length_first, Nat.zero_add]
      at hlen
    have hkept : (ShiftingWalk.kept (d.samples.passes k) d.samples.last d.samples.count
        d.samples.toList).length ≤ d.samples.count :=
      (Nat.le_add_right _ _).trans (ShiftingWalk.length_kept_add_removed_le _ _)
    exact hlen.trans_le hkept
  have hrun : (marxFilterOutliers d.samples.count k d).ret = loop.ret ∧
      (marxFilterOutliers d.samples.count k d).state = loop.state := by
    unfold marxFilterOutliers
    rw [ite_run, if_neg (by omega)]
    simp only [bind_ret, bind_state, read_ret, read_state, hmin, pure_ret, pure_state]
    refine ⟨?_, rfl⟩
    have hloop' : marxFilterLoop (marxThreshold ((List.range d.samples.count).map fun i =>
      (d.samples.entries i).delay) k) d.samples.count 0 0 d = loop := rfl
    rw [hloop']
    split_ifs <;> omega
  rw [hrun.1, hrun.2]
  exact ⟨hfirst, hcount⟩

/-- The filter leaves no fewer samples than it reports, and adds none. -/
theorem marxFilterOutliers_count (k : ℤ) (d : Daemon) :
    (marxFilterOutliers d.samples.count k d).ret ≤
        (marxFilterOutliers d.samples.count k d).state.samples.count ∧
      (marxFilterOutliers d.samples.count k d).state.samples.count ≤ d.samples.count := by
  rcases Nat.lt_or_ge d.samples.count 3 with hlt | hge
  · -- too few samples for a median
    unfold marxFilterOutliers
    rw [ite_run, if_pos hlt]
    exact ⟨le_rfl, le_rfl⟩
  · obtain ⟨hfirst, hcount⟩ := marxFilterOutliers_walk hge k
    have hret := congrArg List.length hfirst
    rw [SampleStore.length_first] at hret
    have hle : (ShiftingWalk.kept (d.samples.passes k) d.samples.last d.samples.count
        d.samples.toList).length + ShiftingWalk.removed (d.samples.passes k) d.samples.count
          d.samples.toList ≤ d.samples.count :=
      ShiftingWalk.length_kept_add_removed_le _ _
    omega

/-- A sample within the median plus `k` times the median absolute deviation. -/
def SampleStore.inlier (s : SampleStore) (k : ℤ) (x : NtpSample) : Bool :=
  decide (x.delay.toNat ≤ madThreshold (s.toList.map fun y => y.delay.toNat) k.toNat)

theorem passes_eq_inlier (s : SampleStore) {k : ℤ} (hk : 0 ≤ k) (hmax : k ≤ 2147483647) :
    s.passes k = s.inlier k := by
  have hdelays : s.delays.map UInt64.toNat = s.toList.map fun y => y.delay.toNat := by
    unfold SampleStore.delays SampleStore.toList
    rw [List.map_map, List.map_map]
    rfl
  funext x
  refine decide_eq_decide.mpr ?_
  rw [UInt64.le_iff_toNat_le, toNat_marxThreshold _ hk hmax, hdelays]

/-- The filter leaves the inliers, in their order, and counts them. -/
structure FilteredExactly (k : ℤ) (d : Daemon) : Prop where
  samples : (marxFilterOutliers d.samples.count k d).state.samples.first
    (marxFilterOutliers d.samples.count k d).ret = d.samples.toList.filter (d.samples.inlier k)
  count : (marxFilterOutliers d.samples.count k d).state.samples.count =
    (marxFilterOutliers d.samples.count k d).ret

/-- **When the filter is exact**: no two outliers are adjacent, an outlier at the end is the only
one, and the inliers behind the first outlier are all equal to the last sample. -/
theorem marxFilterOutliers_exact_iff {d : Daemon} (h : 3 ≤ d.samples.count) {k : ℤ} (hk : 0 ≤ k)
    (hmax : k ≤ 2147483647) :
    FilteredExactly k d ↔
      ShiftingWalk.Harmless (d.samples.inlier k) d.samples.last d.samples.toList := by
  obtain ⟨hfirst, hcount⟩ := marxFilterOutliers_walk h k
  rw [passes_eq_inlier _ hk hmax] at hfirst hcount
  have hlength := SampleStore.length_toList d.samples
  have hret := congrArg List.length hfirst
  rw [SampleStore.length_first] at hret
  rw [← ShiftingWalk.filters_iff (getLast?_toList (by omega))]
  constructor
  · rintro ⟨hsamples, hleft⟩
    refine ⟨?_, ?_⟩
    · rw [hlength, ← hfirst, hsamples]
    · rw [hlength]
      omega
  · rintro ⟨hkeeps, hleaves⟩
    rw [hlength] at hkeeps hleaves
    exact ⟨hfirst.trans hkeeps, by omega⟩

/-- Four samples, of which one has a high delay. -/
def spikeAt (index : ℕ) : SampleStore :=
  ⟨fun i => ⟨UInt64.ofNat i, if i = index then 999 else 10, 0⟩, 4, by decide⟩

theorem marxFilterOutliers_exact_spike :
    FilteredExactly 3 { Daemon.init with samples := spikeAt 2 } :=
  (marxFilterOutliers_exact_iff (by decide) (by decide) (by decide)).mpr
    ⟨by decide, by decide, by decide⟩

/-- Behind an outlier the filter loses one sample and leaves another twice. -/
theorem not_filteredExactly_spike :
    ¬ FilteredExactly 3 { Daemon.init with samples := spikeAt 1 } ∧
      (let o := marxFilterOutliers 4 3 { Daemon.init with samples := spikeAt 1 }
      o.ret = 3 ∧ o.state.samples.first o.ret =
        [(spikeAt 1).entries 0, (spikeAt 1).entries 3, (spikeAt 1).entries 3]) := by
  refine ⟨fun h => absurd h.samples ?_, ?_⟩
  · decide
  · decide

/-- **The filter never rejects everything**: of a store that is not empty it reports a sample at
least, leaves no fewer than it reports, and adds none.  So the exit of an attempt for which nothing
is kept is never taken from such a store. -/
theorem marxFilterOutliers_bounds {d : Daemon} (h : 1 ≤ d.samples.count) (k : ℤ) :
    (1 ≤ (marxFilterOutliers d.samples.count k d).ret ∧
      (marxFilterOutliers d.samples.count k d).ret ≤ d.samples.count) ∧
    ((marxFilterOutliers d.samples.count k d).ret ≤
        (marxFilterOutliers d.samples.count k d).state.samples.count ∧
      (marxFilterOutliers d.samples.count k d).state.samples.count ≤ d.samples.count) ∧
    ∀ (ip : CString) (sock : ℤ) (pkt : NtpHeader) (t4 : NtpTimestamp) (delayUs : UInt64)
      (offsetUs : ℤ) (env : SyncEnv) (d' : Daemon),
      (addSyncSample delayUs offsetUs env.gettimeofday d').state = d →
      acceptReply ip sock pkt t4 delayUs offsetUs env d' =
        (filterReply delayUs offsetUs env.gettimeofday >>= fun validCount =>
          finishSync ip sock pkt t4 delayUs offsetUs validCount env) d' := by
  have hbounds : (marxFilterOutliers d.samples.count k d).ret ≤
        (marxFilterOutliers d.samples.count k d).state.samples.count ∧
      (marxFilterOutliers d.samples.count k d).state.samples.count ≤ d.samples.count :=
    marxFilterOutliers_count k d
  refine ⟨⟨marxFilterOutliers_pos h k, hbounds.1.trans hbounds.2⟩, hbounds, ?_⟩
  rintro ip sock pkt t4 delayUs offsetUs env d' rfl
  -- at least one entry is kept, so the reply is not dropped
  have hkept : (filterReply delayUs offsetUs env.gettimeofday d').ret ≠ 0 :=
    Nat.one_le_iff_ne_zero.mp (marxFilterOutliers_pos h 3)
  exact acceptReply_of_ne_zero hkept

theorem marxFilterOutliers_bounds_spike :
    let o := marxFilterOutliers 4 3 { Daemon.init with samples := spikeAt 1 }
    (1 ≤ o.ret ∧ o.ret ≤ 4) ∧ o.ret ≤ o.state.samples.count ∧ o.state.samples.count ≤ 4 :=
  have h := marxFilterOutliers_bounds (d := { Daemon.init with samples := spikeAt 1 }) (by decide) 3
  ⟨h.1, h.2.1⟩

end Dntpd

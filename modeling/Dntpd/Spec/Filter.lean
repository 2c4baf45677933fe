import Dntpd.Filter
import Dntpd.Library.OrderStatistics
import Dntpd.Spec.LeapSecond

/-!
# The MARX filter: frames, lock discipline, and what it keeps

The threshold is never below the lower median (`median_le_marxThreshold`), and at least half of the
delays are at most the median (`succ_le_countP_marxMedian`).  The walk removes entries under its own
index, so after a removal it skips one: while nothing is kept, turn `i` looks at entry `2 i` of the
original array, and at the last entry when it gets there (`Unkept`).  Half of the delays being at
most the threshold, one of these is kept (`marxFilterOutliers_pos`).
-/

namespace Dntpd

open Proc

/-! ### Frames -/

/-- The daemon without the samples. -/
def Daemon.eraseSamples (d : Daemon) : Daemon := { d with samples := SampleStore.empty }

/-- A step on the sample store: it changes only the samples and locks only `g_mutex`. -/
abbrev SampleStep {α : Type} (p : DProc α) : Prop :=
  Frame Daemon.eraseSamples (Event.LocksOnly [.gMutex]) p

theorem marxAddSampleUs_frame (tsNs delayUs : UInt64) (offsetUs : ℤ) :
    SampleStep (marxAddSampleUs tsNs delayUs offsetUs) := by
  unfold marxAddSampleUs
  refine .bind (.emit ?_) fun _ => .bind (.update fun _ => rfl) fun _ => .emit ?_
  · exact List.mem_singleton_self _
  · exact List.mem_singleton_self _

theorem marxRemoveSample_frame (index : ℕ) : SampleStep (marxRemoveSample index) := by
  unfold marxRemoveSample
  refine .bind .read fun d => .ite ?_ (.pure _)
  refine .bind (.emit ?_) fun _ => .bind (.update fun _ => rfl) fun _ => .emit ?_
  · exact List.mem_singleton_self _
  · exact List.mem_singleton_self _

theorem marxFilterStep_frame (threshold : UInt64) (i filtered : ℕ) :
    SampleStep (marxFilterStep threshold i filtered) := by
  unfold marxFilterStep
  refine .bind .read fun d => .ite ?_ ?_
  · refine .bind (.update fun d => ?_) fun _ => .pure _
    split_ifs <;> rfl
  · exact .bind (marxRemoveSample_frame i) fun _ => .pure _

theorem marxFilterLoop_frame (threshold : UInt64) (n i filtered : ℕ) :
    SampleStep (marxFilterLoop threshold n i filtered) := by
  induction n generalizing i filtered with
  | zero => exact .pure _
  | succ n ih => exact .bind (marxFilterStep_frame threshold i filtered) fun _ => ih _ _

theorem marxFilterOutliers_frame (count : ℕ) (k : ℤ) : SampleStep (marxFilterOutliers count k) := by
  unfold marxFilterOutliers
  exact .ite (.pure _) (.bind .read fun d => .bind (marxFilterLoop_frame _ _ _ _) fun _ => .pure _)

/-! ### Lock discipline -/

/-- The operations on `g_mutex` are disciplined. -/
abbrev GMutexGuarded {α : Type} (p : DProc α) : Prop := Guarded (Event.lockOp .gMutex) p

theorem marxAddSampleUs_guarded (tsNs delayUs : UInt64) (offsetUs : ℤ) :
    GMutexGuarded (marxAddSampleUs tsNs delayUs offsetUs) := fun _ => rfl

theorem marxRemoveSample_guarded (index : ℕ) : GMutexGuarded (marxRemoveSample index) := by
  unfold marxRemoveSample
  exact .bind .read fun d => .ite (fun _ => rfl) (.pure _)

theorem marxFilterStep_guarded (threshold : UInt64) (i filtered : ℕ) :
    GMutexGuarded (marxFilterStep threshold i filtered) := by
  unfold marxFilterStep
  refine .bind .read fun d => .ite ?_ ?_
  · exact .bind (.update _) fun _ => .pure _
  · exact .bind (marxRemoveSample_guarded i) fun _ => .pure _

theorem marxFilterLoop_guarded (threshold : UInt64) (n i filtered : ℕ) :
    GMutexGuarded (marxFilterLoop threshold n i filtered) := by
  induction n generalizing i filtered with
  | zero => exact .pure _
  | succ n ih => exact .bind (marxFilterStep_guarded threshold i filtered) fun _ => ih _ _

theorem marxFilterOutliers_guarded (count : ℕ) (k : ℤ) :
    GMutexGuarded (marxFilterOutliers count k) := by
  unfold marxFilterOutliers
  refine .ite (.pure _) (.bind .read fun d => ?_)
  exact .bind (marxFilterLoop_guarded _ _ _ _) fun _ => .pure _

/-- The jitter is computed in one critical section of `g_mutex`, on a state it leaves alone. -/
theorem ntpOffsetJitterUsLocked_run (d : Daemon) :
    (ntpOffsetJitterUsLocked d).state = d ∧
      (ntpOffsetJitterUsLocked d).trace = [.lock .gMutex, .unlock .gMutex] := by
  unfold ntpOffsetJitterUsLocked lock unlock
  by_cases h : d.samples.count ≤ 1 <;> simp [h]

/-! ### Median and threshold -/

/-- The median is the element of half rank, the lower one of the two in the middle. -/
theorem marxMedian_eq (arr : List UInt64) :
    (marxMedian arr).1 = OrderStatistics.ofRank arr ((arr.length - 1) / 2) 0 := by
  unfold marxMedian
  split_ifs with h0 heven
  · rw [List.length_eq_zero_iff.mp h0]
    rfl
  all_goals
    have hperm := BubbleSort.perm_passes (arr.length - 1) arr
    have hsorted := BubbleSort.sorted_passes (l := arr) (n := arr.length - 1) (by omega)
    rw [← OrderStatistics.getD_eq_ofRank hperm hsorted]
  · have hidx : arr.length / 2 - 1 = (arr.length - 1) / 2 := by omega
    rw [hidx]
  · have hidx : arr.length / 2 = (arr.length - 1) / 2 := by omega
    rw [hidx]

/-- At least as many delays as its rank says are at most the median. -/
theorem succ_le_countP_marxMedian {arr : List UInt64} (h : arr ≠ []) :
    (arr.length - 1) / 2 + 1 ≤ arr.countP (· ≤ (marxMedian arr).1) := by
  have hpos : 0 < arr.length := List.length_pos_iff.mpr h
  rw [marxMedian_eq]
  exact OrderStatistics.succ_le_countP_ofRank (by omega) 0

theorem median_le_marxThreshold (delays : List UInt64) (k : ℤ) :
    (marxMedian delays).1 ≤ marxThreshold delays k := by
  unfold marxThreshold
  dsimp only
  generalize (marxMedian delays).1 = median
  generalize (marxMedian
    (delays.map fun x => if x > median then x - median else median - x)).1 = mad
  have hmax : median ≤ 18446744073709551615 := by
    rw [UInt64.le_iff_toNat_le]
    exact Nat.le_of_lt_succ median.toNat_lt
  -- the guard leaves room above the median for the product
  have hadd : ∀ kmad : UInt64, ¬ kmad > 18446744073709551615 - median → median ≤ median + kmad := by
    intro kmad hk
    have hk' : kmad ≤ 18446744073709551615 - median := not_lt.mp hk
    rw [UInt64.le_iff_toNat_le, UInt64.toNat_sub_of_le _ _ hmax] at hk'
    rw [UInt64.le_iff_toNat_le, UInt64.toNat_add]
    have := median.toNat_lt
    have h0 : (18446744073709551615 : UInt64).toNat = 18446744073709551615 := rfl
    omega
  generalize (ite (mad = 0) 0 _ : UInt64) = kmad
  -- a deviation of zero, a sum that saturates, or one that fits
  split_ifs with h0 hbig
  · exact le_refl median
  · exact hmax
  · exact hadd kmad hbig

/-! ### The walk keeps something -/

/-- The store after turns that kept nothing, up to index `i` of an array `orig` of `n` entries:
the entries in front of the walk have moved down by `i`, and the last one is where it was. -/
structure Unkept (orig : ℕ → NtpSample) (n i : ℕ) (s : SampleStore) : Prop where
  count_le : s.count ≤ n
  last : s.entries (n - 1) = orig (n - 1)
  count : 2 * i ≤ n → s.count = n - i
  shifted : 2 * i ≤ n → ∀ j, i ≤ j → j < n - i → s.entries j = orig (i + j)

/-- The store a turn leaves that removes the entry it looks at. -/
def SampleStore.removeAt (s : SampleStore) (i : ℕ) : SampleStore :=
  if i < s.count then s.remove i else s

theorem marxRemoveSample_samples (i : ℕ) (d : Daemon) :
    (marxRemoveSample i d).state.samples = d.samples.removeAt i := by
  unfold marxRemoveSample SampleStore.removeAt lock unlock
  by_cases h : i < d.samples.count <;> simp [h]

theorem Unkept.removeAt {orig : ℕ → NtpSample} {n i : ℕ} {s : SampleStore}
    (h : Unkept orig n i s) : Unkept orig n (i + 1) (s.removeAt i) := by
  have hn := h.count_le
  unfold SampleStore.removeAt
  split_ifs with hi
  · -- the removal moves every later entry down by one
    refine ⟨?_, ?_, fun h2 => ?_, fun h2 j hij hj => ?_⟩
    · exact (Nat.sub_le _ _).trans hn
    · show (if i ≤ n - 1 ∧ n - 1 + 1 < s.count then _ else _) = _
      rw [if_neg (by omega)]
      exact h.last
    · show s.count - 1 = n - (i + 1)
      rw [h.count (by omega)]
      omega
    · have hc := h.count (by omega)
      show (if i ≤ j ∧ j + 1 < s.count then _ else _) = _
      rw [if_pos (by omega), h.shifted (by omega) (j + 1) (by omega) (by omega)]
      congr 1
      omega
  · -- past the end of the store, which the walk reaches only in its second half
    have hpast : ¬ 2 * (i + 1) ≤ n := fun h2 => hi (by rw [h.count (by omega)]; omega)
    exact ⟨hn, h.last, fun h2 => absurd h2 hpast, fun h2 => absurd h2 hpast⟩

/-- What a turn returns and leaves when the entry it looks at is past the threshold. -/
theorem marxFilterStep_of_lt {threshold : UInt64} {i : ℕ} {d : Daemon} (filtered : ℕ)
    (h : threshold < (d.samples.entries i).delay) :
    (marxFilterStep threshold i filtered d).ret = filtered ∧
      (marxFilterStep threshold i filtered d).state.samples = d.samples.removeAt i := by
  unfold marxFilterStep
  simp [not_le.mpr h, marxRemoveSample_samples]

theorem marxFilterStep_of_le {threshold : UInt64} {i filtered : ℕ} {d : Daemon}
    (h : (d.samples.entries i).delay ≤ threshold) :
    (marxFilterStep threshold i filtered d).ret = filtered + 1 := by
  unfold marxFilterStep
  simp [h]

theorem le_marxFilterStep (threshold : UInt64) (i filtered : ℕ) (d : Daemon) :
    filtered ≤ (marxFilterStep threshold i filtered d).ret := by
  rcases le_or_gt (d.samples.entries i).delay threshold with h | h
  · rw [marxFilterStep_of_le h]
    omega
  · exact (marxFilterStep_of_lt filtered h).1.ge

theorem le_marxFilterLoop (threshold : UInt64) (n i filtered : ℕ) (d : Daemon) :
    filtered ≤ (marxFilterLoop threshold n i filtered d).ret := by
  induction n generalizing i filtered d with
  | zero => exact le_refl filtered
  | succ n ih => exact (le_marxFilterStep threshold i filtered d).trans (ih _ _ _)

/-- If the walk keeps nothing from `i` on, the entries it looks at are past the threshold: every
second one of the original array, and the last one. -/
theorem lt_of_marxFilterLoop_eq_zero {threshold : UInt64} {orig : ℕ → NtpSample} {n : ℕ} :
    ∀ (k i : ℕ) (d : Daemon), i + k = n → Unkept orig n i d.samples →
      (marxFilterLoop threshold k i 0 d).ret = 0 →
      ∀ j, i ≤ j → j < n → (2 * j < n → threshold < (orig (2 * j)).delay) ∧
        (j = n - 1 → threshold < (orig (n - 1)).delay) := by
  intro k
  induction k with
  | zero =>
    intro i d hik _ _ j hij hj
    omega
  | succ k ih =>
    intro i d hik hinv hret j hij hj
    have hloop : (marxFilterLoop threshold (k + 1) i 0 d).ret =
        (marxFilterLoop threshold k (i + 1) (marxFilterStep threshold i 0 d).ret
          (marxFilterStep threshold i 0 d).state).ret := rfl
    rw [hloop] at hret
    -- a kept entry would be counted, and the count never goes down
    have hlt : threshold < (d.samples.entries i).delay := by
      by_contra! hle
      have hpos := le_marxFilterLoop threshold k (i + 1) (marxFilterStep threshold i 0 d).ret
        (marxFilterStep threshold i 0 d).state
      rw [hret, marxFilterStep_of_le hle] at hpos
      omega
    obtain ⟨hstep, hsamples⟩ := marxFilterStep_of_lt 0 hlt
    rw [hstep] at hret
    have hinv' : Unkept orig n (i + 1) (marxFilterStep threshold i 0 d).state.samples := by
      rw [hsamples]
      exact hinv.removeAt
    -- the later entries by induction, this one by the invariant
    rcases Nat.lt_or_ge i j with hlt' | hge
    · exact ih (i + 1) _ (by omega) hinv' hret j hlt' hj
    · obtain rfl : i = j := by omega
      refine ⟨fun h2 => ?_, fun hlast => ?_⟩
      · rwa [hinv.shifted (by omega) i le_rfl (by omega), ← two_mul] at hlt
      · rwa [hlast, hinv.last] at hlt

/-- A predicate that fails at every even index holds at no more than half of the indices. -/
theorem countP_range_le_of_even {p : ℕ → Bool} (n : ℕ) (h : ∀ j, 2 * j < n → p (2 * j) = false) :
    (List.range n).countP p ≤ n / 2 := by
  induction n with
  | zero => simp
  | succ n ih =>
    rw [List.range_succ, List.countP_append, List.countP_singleton]
    have hn := ih fun j hj => h j (by omega)
    rcases Nat.even_or_odd' n with ⟨m, rfl | rfl⟩
    · rw [h m (by omega)]
      simp only [Bool.false_eq_true, if_false]
      omega
    · split_ifs <;> omega

/-- If it fails at the last index too, it holds at fewer than half of them. -/
theorem countP_range_le_of_even_of_last {p : ℕ → Bool} {n : ℕ}
    (heven : ∀ j, 2 * j < n → p (2 * j) = false) (hlast : p (n - 1) = false) :
    (List.range n).countP p ≤ (n - 1) / 2 := by
  cases n with
  | zero => simp
  | succ m =>
    have hlast' : p m = false := hlast
    rw [List.range_succ, List.countP_append, List.countP_singleton, hlast']
    exact countP_range_le_of_even m fun j hj => heven j (by omega)

/-- A walk whose threshold is not below the median of the delays keeps a sample. -/
theorem marxFilterLoop_pos {d : Daemon} {threshold : UInt64} (h : 1 ≤ d.samples.count)
    (hmedian : (marxMedian d.samples.delays).1 ≤ threshold) :
    1 ≤ (marxFilterLoop threshold d.samples.count 0 0 d).ret := by
  set n := d.samples.count with hn
  -- a walk that keeps nothing has looked at every second entry and at the last one
  by_contra! h0
  have hinv : Unkept d.samples.entries n 0 d.samples :=
    ⟨le_rfl, rfl, fun _ => rfl, fun _ j _ _ => by rw [Nat.zero_add]⟩
  have hlt := lt_of_marxFilterLoop_eq_zero n 0 d (Nat.zero_add n) hinv (Nat.lt_one_iff.mp h0)
  -- no entry the walk looks at is at most the median
  set p : ℕ → Bool := fun i =>
    decide ((d.samples.entries i).delay ≤ (marxMedian d.samples.delays).1)
  have hp : ∀ i, threshold < (d.samples.entries i).delay → p i = false := fun i hi =>
    decide_eq_false (not_le.mpr (hmedian.trans_lt hi))
  have heven : ∀ j, 2 * j < n → p (2 * j) = false := by
    intro j hj
    apply hp
    exact (hlt j (Nat.zero_le j) (by omega)).1 hj
  have hlast : p (n - 1) = false := by
    apply hp
    exact (hlt (n - 1) (Nat.zero_le _) (by omega)).2 rfl
  have hlength : d.samples.delays.length = n := by simp [SampleStore.delays, hn]
  have hne : d.samples.delays ≠ [] := by
    rw [← List.length_pos_iff, hlength]
    exact h
  -- at least half of the entries are at most the median
  have hhalf : (n - 1) / 2 + 1 ≤ (List.range n).countP p := by
    have hcount := succ_le_countP_marxMedian hne
    rw [hlength] at hcount
    calc (n - 1) / 2 + 1
        ≤ d.samples.delays.countP (· ≤ (marxMedian d.samples.delays).1) := hcount
      _ = (List.range n).countP p := List.countP_map
  have hle := countP_range_le_of_even_of_last heven hlast
  omega

/-- The filter keeps a sample of every store that has one. -/
theorem marxFilterOutliers_pos {d : Daemon} (h : 1 ≤ d.samples.count) (k : ℤ) :
    1 ≤ (marxFilterOutliers d.samples.count k d).ret := by
  have hmin : min d.samples.count maxSamples = d.samples.count := min_eq_left d.samples.count_le
  have hpos := marxFilterLoop_pos h (median_le_marxThreshold d.samples.delays k)
  unfold SampleStore.delays at hpos
  unfold marxFilterOutliers
  rw [ite_run]
  split_ifs with h3
  · exact h
  simp only [bind_ret, read_ret, read_state, hmin, pure_ret]
  split_ifs with hle
  · exact hpos
  · exact h

end Dntpd

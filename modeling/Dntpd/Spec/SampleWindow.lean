import Dntpd.Initial
import Dntpd.Library.SlidingWindow
import Dntpd.Spec.Filter

/-!
# The sample store over a run of `marx_add_sample_us`

A full store takes nothing, so what a run of additions leaves is the first samples of the run
(`samplesAfter_of_empty`).  They are the last ones as long as all fit or all are equal
(`sampleWindow_iff`).
-/

namespace Dntpd

open Proc

/-- `g_samples[0..g_sample_count)`. -/
def SampleStore.toList (s : SampleStore) : List NtpSample := (List.range s.count).map s.entries

namespace SampleStore

@[simp] theorem length_toList (s : SampleStore) : s.toList.length = s.count := by
  rw [toList, List.length_map, List.length_range]

theorem toList_add (s : SampleStore) (x : NtpSample) :
    (s.add x).toList = if s.count < maxSamples then s.toList ++ [x] else s.toList := by
  unfold add
  by_cases h : s.count < maxSamples
  · rw [dif_pos h, if_pos h, toList, toList, List.range_succ, List.map_append, List.map_singleton]
    dsimp only
    rw [Function.update_self]
    refine congrArg (· ++ [x]) (List.map_congr_left fun i hi => ?_)
    exact Function.update_of_ne (List.mem_range.mp hi).ne x s.entries
  · rw [dif_neg h, if_neg h]

end SampleStore

/-! ### Runs -/

/-- The call that adds `x`. -/
def addSample (x : NtpSample) : DProc Unit := marxAddSampleUs x.ts x.delay x.offset

@[simp] theorem addSample_samples (x : NtpSample) (d : Daemon) :
    (addSample x d).state.samples = d.samples.add x := rfl

/-- The store after a run of calls. -/
def samplesAfter (xs : List NtpSample) (d : Daemon) : List NtpSample :=
  (runAll (xs.map addSample) d).1.samples.toList

/-- A run adds to the store what there is room for. -/
theorem samplesAfter_eq (xs : List NtpSample) (d : Daemon) :
    samplesAfter xs d = d.samples.toList ++ xs.take (maxSamples - d.samples.count) := by
  induction xs generalizing d with
  | nil =>
    rw [List.take_nil, List.append_nil]
    rfl
  | cons x xs ih =>
    have hstep : samplesAfter (x :: xs) d = samplesAfter xs (addSample x d).state := rfl
    have hlist := d.samples.toList_add x
    have hlen := congrArg List.length hlist
    rw [hstep, ih, addSample_samples]
    rw [SampleStore.length_toList] at hlen
    -- a store with room takes the sample, a full one none of the rest
    by_cases h : d.samples.count < maxSamples
    · rw [if_pos h] at hlist hlen
      rw [List.length_append, SampleStore.length_toList, List.length_singleton] at hlen
      have hroom : maxSamples - d.samples.count = maxSamples - (d.samples.count + 1) + 1 := by omega
      rw [hlist, hlen, hroom, List.take_succ_cons, List.append_assoc, List.singleton_append]
    · rw [if_neg h] at hlist hlen
      rw [SampleStore.length_toList] at hlen
      have hroom : maxSamples - d.samples.count = 0 := by omega
      rw [hlist, hlen, hroom, List.take_zero, List.take_zero]

/-- From the empty store a run leaves its first samples. -/
theorem samplesAfter_of_empty {d : Daemon} (h : d.samples.count = 0) (xs : List NtpSample) :
    samplesAfter xs d = xs.take maxSamples := by
  rw [samplesAfter_eq, h, Nat.sub_zero]
  have hnil : d.samples.toList = [] := List.length_eq_zero_iff.mp (d.samples.length_toList.trans h)
  rw [hnil, List.nil_append]

/-- After each call of the run the store holds the last samples, in order of arrival. -/
def SlidesAlong (xs : List NtpSample) (d : Daemon) : Prop :=
  ∀ n ≤ xs.length, samplesAfter (xs.take n) d = (xs.take n).rtake maxSamples

/-- Along a run from the empty store, the store is a sliding window exactly if the run has at most
`MAX_SAMPLES` calls or all its samples are equal. -/
theorem sampleWindow_iff {d : Daemon} (hempty : d.samples.count = 0) (xs : List NtpSample) :
    SlidesAlong xs d ↔ xs.length ≤ maxSamples ∨ ∀ x ∈ xs, ∀ y ∈ xs, x = y := by
  unfold SlidesAlong
  rw [← SlidingWindow.forall_take_eq_rtake_iff (by decide : 0 < maxSamples)]
  refine forall₂_congr fun n _ => ?_
  rw [samplesAfter_of_empty hempty]

/-- A run of three samples. -/
theorem sampleWindow_three :
    SlidesAlong [⟨1, 10, 5⟩, ⟨2, 20, 6⟩, ⟨3, 30, 7⟩] Daemon.init :=
  (sampleWindow_iff rfl [⟨1, 10, 5⟩, ⟨2, 20, 6⟩, ⟨3, 30, 7⟩]).mpr (.inl (by decide))

/-- The 65th sample is not in the store. -/
theorem sampleWindow_sixtyFive :
    let run := List.replicate 64 ⟨1, 10, 5⟩ ++ [(⟨2, 20, 6⟩ : NtpSample)]
    ¬ SlidesAlong run Daemon.init ∧ ⟨2, 20, 6⟩ ∉ samplesAfter run Daemon.init := by
  intro run
  have hafter : samplesAfter run Daemon.init = List.replicate 64 ⟨1, 10, 5⟩ :=
    samplesAfter_of_empty rfl run
  have hnot : ⟨2, 20, 6⟩ ∉ samplesAfter run Daemon.init := by
    rw [hafter]
    exact fun hmem => absurd (List.eq_of_mem_replicate hmem) (by decide)
  refine ⟨fun hslides => hnot ?_, hnot⟩
  have hwindow : samplesAfter run Daemon.init = run.rtake maxSamples := hslides 65 (by decide)
  rw [hwindow]
  decide

end Dntpd

import Dntpd.Spec.ClockThread
import Dntpd.Spec.NtpAlgorithms

/-!
# What the clock thread takes a timestamp for

`clock_thread_main` counts the seconds of `g_last_sync_ts` from 1900 and compares them with a clock
that counts from 1970, and it multiplies the fraction in 32 bits.  What it expects differs from
`ntp_timestamp_to_ns` for every timestamp by about 70 years (`expectedNs_sub_bounds`), and so do the
offsets it corrects.
-/

namespace Dntpd

open Proc CInt

/-- The timestamp as the thread takes it: seconds from 1900 and a wrapped product. -/
theorem expectedNs_eq (t : NtpTimestamp) :
    expectedNs t = (t.sec.toNat : ℤ) * 1000000000 + (t.frac.toNat * 1000 % 2 ^ 32 : ℕ) := by
  have hs := t.sec.toNat_lt
  have hproduct : (t.frac * 1000).toNat = t.frac.toNat * 1000 % 2 ^ 32 := UInt32.toNat_mul _ _
  unfold expectedNs
  rw [hproduct, int64_eq (x := (t.sec.toNat : ℤ) * 1000000000) (by unfold InInt64; omega)]
  exact int64_eq (by unfold InInt64; omega)

/-- It is off by 2208988800 s, the time between the epochs, but for less than 5 s. -/
theorem expectedNs_sub_bounds (t : NtpTimestamp) :
    2208988799000000000 < expectedNs t - ntpTimestampToNs t ∧
      expectedNs t - ntpTimestampToNs t < 2208988805000000000 := by
  have hf := t.frac.toNat_lt
  rw [expectedNs_eq, ntpTimestampToNs_eq]
  constructor <;> omega

/-- So is the offset, for every reading of the clock. -/
theorem clockThreadOffset_ne (tv : Timeval) (t : NtpTimestamp) :
    clockThreadOffset tv t ≠ (nowNs tv - ntpTimestampToNs t).tdiv 1000 := by
  have hnow := tv.inInt64_nowNs
  have hdiff := expectedNs_sub_bounds t
  have hunix := ntpTimestampToNs_bounds t
  have hleft := tdiv_bounds (int64 (nowNs tv - expectedNs t)) (b := 1000) (by decide)
  have hright := tdiv_bounds (nowNs tv - ntpTimestampToNs t) (b := 1000) (by decide)
  unfold clockThreadOffset
  intro heq
  rw [heq] at hleft
  -- a difference that does not fit is off by 2^64 as well
  unfold InInt64 at hnow
  unfold int64 at hleft
  omega

/-- An iteration submits its offset, and only that. -/
theorem submits_iff {ctx : ClockThreadContext} {env : ClockThreadEnv} {tv : Timeval}
    (htime : env.gettimeofday = .ok tv) (d : Daemon) (offsetUs : ℤ) :
    .applyTimeCorrectionSlewOrStep .clockThreadMain offsetUs ∈
        (clockThreadIteration ctx env d).trace ↔
      offsetUs = clockThreadOffset tv d.g.lastSyncTs := by
  rw [clockThreadIteration_trace htime]
  constructor
  · intro h
    rcases List.mem_append.mp h with hlock | h
    · rcases List.mem_pair.mp hlock with heq | heq <;> exact Event.noConfusion heq
    rcases List.mem_append.mp h with hcorrection | h
    · exact ((applyTimeCorrection_frame _ _ _).trace d _ hcorrection).2
    · rw [List.append_nil] at h
      exact ((clockThreadWait_frame _ _ fun _ => False).trace _ _ h).elim
  · rintro rfl
    refine List.mem_append_right _ (List.mem_append_left _ ?_)
    exact mem_applyTimeCorrection_trace _ _ _ d

/-- The thread takes a timestamp for what `ntp_timestamp_to_ns` does: it expects that time, and
whenever it compares it with a clock reading the difference is what it corrects. -/
structure OneMeaning (t : NtpTimestamp) : Prop where
  expected : expectedNs t = ntpTimestampToNs t
  submitted : ∀ (ctx : ClockThreadContext) (env : ClockThreadEnv) (tv : Timeval) (d : Daemon)
    (offsetUs : ℤ), env.gettimeofday = .ok tv → d.g.lastSyncTs = t →
      .applyTimeCorrectionSlewOrStep .clockThreadMain offsetUs ∈
        (clockThreadIteration ctx env d).trace →
      offsetUs = (nowNs tv - ntpTimestampToNs t).tdiv 1000

/-- **No timestamp has one meaning**: the thread expects another time, and no offset it submits is
the difference from the clock. -/
theorem timestamp_twoMeanings (t : NtpTimestamp) :
    ¬ OneMeaning t ∧ expectedNs t ≠ ntpTimestampToNs t ∧
      ∀ (ctx : ClockThreadContext) (env : ClockThreadEnv) (tv : Timeval) (d : Daemon)
        (offsetUs : ℤ), env.gettimeofday = .ok tv → d.g.lastSyncTs = t →
          .applyTimeCorrectionSlewOrStep .clockThreadMain offsetUs ∈
            (clockThreadIteration ctx env d).trace →
          offsetUs ≠ (nowNs tv - ntpTimestampToNs t).tdiv 1000 := by
  have hbounds := expectedNs_sub_bounds t
  have hne : expectedNs t ≠ ntpTimestampToNs t := by omega
  refine ⟨fun h => hne h.expected, hne, ?_⟩
  rintro ctx env tv d offsetUs htime rfl hsubmits
  rw [(submits_iff htime d offsetUs).mp hsubmits]
  exact clockThreadOffset_ne tv d.g.lastSyncTs

/-- A daemon that was synchronised at 2023-11-14 22:13:20 UTC. -/
def syncedAt1700000000 : Daemon :=
  { Daemon.init with g := { Daemon.init.g with lastSyncTs := ⟨3908988800, 0⟩ } }

/-- Asked at that very time, the thread corrects the clock by 70 years. -/
theorem timestamp_twoMeanings_at1700000000 :
    .applyTimeCorrectionSlewOrStep .clockThreadMain (-2208988800000000) ∈
        (clockThreadIteration ⟨1000, 0, 0⟩ wallClockEnv syncedAt1700000000).trace ∧
      (-2208988800000000 : ℤ) ≠
        (nowNs ⟨1700000000, 0, by decide⟩ - ntpTimestampToNs ⟨3908988800, 0⟩).tdiv 1000 := by
  have hsubmits : .applyTimeCorrectionSlewOrStep .clockThreadMain (-2208988800000000) ∈
      (clockThreadIteration ⟨1000, 0, 0⟩ wallClockEnv syncedAt1700000000).trace :=
    (submits_iff rfl syncedAt1700000000 _).mpr (by decide)
  exact ⟨hsubmits, (timestamp_twoMeanings ⟨3908988800, 0⟩).2.2 _ _ _ _ _ rfl rfl hsubmits⟩

/-- That timestamp is the clock reading itself to `ntp_timestamp_to_ns`. -/
theorem not_oneMeaning_at1700000000 :
    ¬ OneMeaning ⟨3908988800, 0⟩ ∧
      ntpTimestampToNs ⟨3908988800, 0⟩ = 1700000000 * 1000000000 ∧
      expectedNs ⟨3908988800, 0⟩ = 3908988800 * 1000000000 := by
  have hexpected : expectedNs ⟨3908988800, 0⟩ = 3908988800 * 1000000000 := by decide
  have hunix : ntpTimestampToNs ⟨3908988800, 0⟩ = 1700000000 * 1000000000 := by decide
  refine ⟨fun h => ?_, hunix, hexpected⟩
  have heq := h.expected
  rw [hexpected, hunix] at heq
  exact absurd heq (by decide)

end Dntpd

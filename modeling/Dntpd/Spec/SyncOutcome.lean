import Dntpd.Spec.SyncAccept
import Dntpd.Spec.TimeCorrection

/-!
# How an attempt with an accepted reply ends

A reply that gets past the filter leads to the last section and the status 0, and one that does not
to -1 (`ReplyAccepted.finishedRun`, `ReplyAccepted.droppedRun`).  The status of the correction is
only logged, so an attempt reports a failed correction exactly if there is none to report
(`failedCorrection_reported_iff`).
-/

namespace Dntpd

open Proc CInt

/-! ### The two ends -/

/-- The filter has a sample to keep. -/
def ReplyKept (env : SyncEnv) (d : Daemon) : Prop :=
  env.gettimeofday.toBool = true ∨ 0 < d.samples.count

instance (env : SyncEnv) (d : Daemon) : Decidable (ReplyKept env d) := by
  unfold ReplyKept
  infer_instance

theorem finishSync_ret (ip : CString) (sock : ℤ) (pkt : NtpHeader) (t4 : NtpTimestamp)
    (delayUs : UInt64) (offsetUs : ℤ) (validCount : ℕ) (env : SyncEnv) (d : Daemon) :
    (finishSync ip sock pkt t4 delayUs offsetUs validCount env d).ret = 0 := by
  have hzero : Returns (· = 0)
      (finishSync ip sock pkt t4 delayUs offsetUs validCount env) := by
    -- with or without a correction, the rest of the section is the same
    have hrest : Returns (· = 0) (do
        recordSync ip pkt t4 delayUs offsetUs env
        let _ ← leapSecondIntegrationCheck env.leapCheck
        closeSocket sock
        return (0 : ℤ)) :=
      .of_bind fun _ => .of_bind fun _ => .of_bind fun _ => .pure rfl
    unfold finishSync
    exact .of_bind fun _ => .of_bind fun _ => .ite (.of_bind fun _ => hrest) hrest
  exact hzero d

/-- A run that returns 0 and leaves the globals of the last section. -/
structure FinishedRun (ip : CString) (env : SyncEnv) (pkt : NtpHeader) (delayUs : UInt64)
    (offsetUs : ℤ) (o : Outcome Daemon Event ℤ) : Prop where
  ret : o.ret = 0
  g : ∃ d₁, o.state.g =
    (recordSync ip pkt (ntpTimestampNow env.t4Clock) delayUs offsetUs env d₁).state.g

section

variable {port : CString} {env : SyncEnv} {d : Daemon} {dg : Datagram} {delayUs : UInt64}
  {offsetUs : ℤ}

theorem ReplyAccepted.finishedRun (h : ReplyAccepted port env d dg delayUs offsetUs)
    (hkept : ReplyKept env d) (ip : CString) :
    FinishedRun ip env (env.header dg d.ido) delayUs offsetUs
      (syncNtpTime (some ip) (some port) env d) := by
  obtain ⟨sock, d₁, tr₁, hrun⟩ := h.acceptedRun ip
  have hfilter := hrun.filterReply_ne_zero_iff.mpr hkept
  obtain ⟨d₂, -, hg⟩ := finishSync_g ip sock (env.header dg d.ido) (ntpTimestampNow env.t4Clock)
    delayUs offsetUs env (filterReply delayUs offsetUs env.gettimeofday d₁).ret
    (filterReply delayUs offsetUs env.gettimeofday d₁).state
  rw [hrun.run, acceptReply_of_ne_zero hfilter]
  exact ⟨finishSync_ret _ _ _ _ _ _ _ _ _, d₂, hg⟩

/-- A dropped reply withdraws the state "synchronised". -/
theorem ReplyAccepted.droppedRun (h : ReplyAccepted port env d dg delayUs offsetUs)
    (hdropped : ¬ ReplyKept env d) (ip : CString) :
    (syncNtpTime (some ip) (some port) env d).ret = -1 ∧
      (syncNtpTime (some ip) (some port) env d).state.g = d.g.unsynced := by
  obtain ⟨sock, d₁, tr₁, hg, hrun⟩ := h.acceptedRun_g ip
  have hfilter := not_not.mp (hrun.filterReply_ne_zero_iff.not.mpr hdropped)
  have hfilterg : (filterReply delayUs offsetUs env.gettimeofday d₁).state.g = d₁.g :=
    (filterReply_offsetStep offsetUs delayUs env.gettimeofday).state d₁
  obtain ⟨hret, hstate, -⟩ := demoteReply_run sock Globals.unsynced
    (filterReply delayUs offsetUs env.gettimeofday d₁).state
  rw [hrun.run, acceptReply_of_eq_zero hfilter]
  refine ⟨hret, ?_⟩
  dsimp only
  rw [hstate]
  dsimp only
  rw [hfilterg, hg]

end

/-! ### Failed corrections -/

/-- The correction is not refused, and the call it makes succeeds. -/
def CorrectionWorks (threshold : UInt16) (offsetUs : ℤ) (env : CorrectionEnv) : Prop :=
  ¬ CorrectionRefused threshold offsetUs env.clock ∧
    (if |offsetUs| > stepThresholdUs then env.settime else env.adjtime).toBool = true

theorem applyTimeCorrection_eq_zero_iff (caller : CorrectionCaller) {offsetUs : ℤ}
    (hoffset : InInt64 (offsetUs * 1000)) (env : CorrectionEnv) (d : Daemon) :
    (applyTimeCorrectionSlewOrStep caller offsetUs env d).ret = 0 ↔
      CorrectionWorks d.mode.config.panicThreshold offsetUs env := by
  rw [(applyTimeCorrection_correctionOutcome caller offsetUs env d).ret]
  unfold CorrectionWorks
  rw [← correctionCall_eq_none_iff hoffset]
  cases hcall : correctionCall d.mode.config.panicThreshold offsetUs env.clock with
  | none =>
    refine iff_of_false ?_ fun h => h.1 rfl
    show ¬ (-1 : ℤ) = 0
    decide
  | some call =>
    rw [and_iff_right nofun, ← answer_of_correctionCall hcall]
    exact callStatus_eq_zero_iff _

/-- The run does not report success, and publishes nothing of the new source. -/
structure FailureReported (before : Globals) (o : Outcome Daemon Event ℤ) : Prop where
  ret : o.ret ≠ 0
  timeSynced : before.timeSynced = false → o.state.g.timeSynced = false
  localStratum : o.state.g.localStratum = before.localStratum
  lastSyncTs : o.state.g.lastSyncTs = before.lastSyncTs
  localRefId : o.state.g.localRefId = before.localRefId

/-- If the correction by the offset of an accepted reply fails, the attempt reports it. -/
def ReportsFailedCorrection (ip port : CString) (env : SyncEnv) (d : Daemon) (offsetUs : ℤ) :
    Prop :=
  (applyTimeCorrectionSlewOrStep .syncNtpTime offsetUs env.correction d).ret ≠ 0 →
    FailureReported d.g (syncNtpTime (some ip) (some port) env d)

/-- An attempt with an accepted reply reports a failed correction exactly if the correction works,
or the filter drops the reply before it. -/
theorem failedCorrection_reported_iff {port : CString} {env : SyncEnv} {d : Daemon} {dg : Datagram}
    {delayUs : UInt64} {offsetUs : ℤ} (h : ReplyAccepted port env d dg delayUs offsetUs)
    (ip : CString) :
    ReportsFailedCorrection ip port env d offsetUs ↔
      CorrectionWorks d.mode.config.panicThreshold offsetUs env.correction ∨
        ¬ ReplyKept env d := by
  have hoffset : InInt64 (offsetUs * 1000) := by
    have hle := abs_le.mp h.checks.offset_le
    unfold InInt64
    omega
  unfold ReportsFailedCorrection
  rw [ne_eq, applyTimeCorrection_eq_zero_iff _ hoffset]
  by_cases hkept : ReplyKept env d
  · -- the attempt returns 0 whatever the correction returned
    have hfinished := h.finishedRun hkept ip
    rw [or_iff_left (not_not.mpr hkept)]
    constructor
    · intro hreports
      by_contra hfails
      exact (hreports hfails).ret hfinished.ret
    · exact fun hworks hfails => absurd hworks hfails
  -- the attempt ends before it comes to the correction
  · obtain ⟨hret, hg⟩ := h.droppedRun hkept ip
    refine iff_of_true (fun _ => ⟨?_, fun _ => ?_, ?_, ?_, ?_⟩) (.inr hkept)
    · rw [hret]
      decide
    · rw [hg]
      rfl
    · rw [hg]
      rfl
    · rw [hg]
      rfl
    · rw [hg]
      rfl

/-- What corrects the clock has no part in what is accepted. -/
theorem ReplyAccepted.withCorrection {port : CString} {env : SyncEnv} {d : Daemon} {dg : Datagram}
    {delayUs : UInt64} {offsetUs : ℤ} (h : ReplyAccepted port env d dg delayUs offsetUs)
    (correction : CorrectionEnv) :
    ReplyAccepted port { env with correction := correction } d dg delayUs offsetUs where
  received :=
    let sent := h.received.sent
    ⟨⟨sent.1, sent.2, sent.3, sent.4, sent.5, sent.6, sent.7⟩, h.received.datagram,
      h.received.nonempty⟩
  parses := h.parses
  checks := h.checks

/-- The correction by -499 us succeeds. -/
theorem failedCorrection_reported_echoReply :
    ReportsFailedCorrection "10.0.0.1".toList "123".toList (workingSyncEnv echoReply)
      unreachedDaemon (-499) := by
  refine (failedCorrection_reported_iff (replyAccepted_echoReply SampleStore.empty)
    "10.0.0.1".toList).mpr (.inl ⟨?_, by decide⟩)
  rintro (hpanic | hstep)
  · exact absurd hpanic (by decide)
  · exact absurd hstep.1 (by decide)

/-- An attempt of a process that has no right to set the clock. -/
def deniedEnv : SyncEnv :=
  { workingSyncEnv echoReply with
    correction := ⟨sampleTime, .error ⟨1, by decide⟩, .error ⟨1, by decide⟩⟩ }

/-- The correction fails, and the attempt returns 0 with the daemon synchronised. -/
theorem deniedEnv_not_reportsFailedCorrection :
    ReplyAccepted "123".toList deniedEnv unreachedDaemon (Datagram.ofList echoReply) 999 (-499) ∧
      ¬ ReportsFailedCorrection "10.0.0.1".toList "123".toList deniedEnv unreachedDaemon (-499) ∧
      (syncNtpTime (some "10.0.0.1".toList) (some "123".toList) deniedEnv unreachedDaemon).ret =
        0 := by
  have haccepted : ReplyAccepted "123".toList deniedEnv unreachedDaemon
      (Datagram.ofList echoReply) 999 (-499) :=
    (replyAccepted_echoReply SampleStore.empty).withCorrection _
  have hfails : (applyTimeCorrectionSlewOrStep .syncNtpTime (-499) deniedEnv.correction
      unreachedDaemon).ret ≠ 0 := by decide
  have hret := (haccepted.finishedRun (.inl rfl) "10.0.0.1".toList).ret
  exact ⟨haccepted, fun hreports => (hreports hfails).ret hret, hret⟩

end Dntpd

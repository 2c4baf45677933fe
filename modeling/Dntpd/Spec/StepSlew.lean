import Dntpd.Initial
import Dntpd.Spec.Int64Ops
import Dntpd.Spec.Threads

/-!
# What a correction asks of the clock

A correction that is not refused steps the clock by exactly its offset, or slews it by exactly its
offset, with a remainder in the range the call takes (`applyTimeCorrection_exact`).

The panic threshold is one of seconds, but the code compares microseconds with nanoseconds of it, so
offsets between a threshold and a thousand of them get past the test
(`panicThreshold_protects_iff`).
-/

namespace Dntpd

open Proc CInt

/-! ### Units and remainder -/

/-- With the borrow the remainder is one of floor division. -/
theorem splitUnits_spec (v : ℤ) {unit : ℤ} (hunit : 0 < unit) :
    0 ≤ (splitUnits v unit).2 ∧ (splitUnits v unit).2 < unit ∧
      (splitUnits v unit).1 * unit + (splitUnits v unit).2 = v := by
  have hlt := Int.tmod_lt_of_pos v hunit
  have hgt := Int.lt_tmod_of_pos v hunit
  have hsum : v.tdiv unit * unit + v.tmod unit = v := Int.tdiv_mul_add_tmod v unit
  unfold splitUnits
  dsimp only
  split_ifs with hneg
  · refine ⟨by omega, by omega, ?_⟩
    rw [sub_mul]
    omega
  · exact ⟨not_lt.mp hneg, hlt, hsum⟩

/-! ### Exact corrections -/

/-- The call corrects the clock by the offset. -/
def ClockCall.Corrects (offsetUs : ℤ) (clock : Except Errno Timespec) : ClockCall → Prop
  | .settime sec nsec =>
    |offsetUs| > 500000 ∧ 0 ≤ nsec ∧ nsec < 1000000000 ∧ ∃ now, clock = .ok now ∧
      sec * 1000000000 + nsec = (now.sec * 1000000000 + now.nsec) + 1000 * offsetUs
  | .adjtime sec usec =>
    |offsetUs| ≤ 500000 ∧ 0 ≤ usec ∧ usec < 1000000 ∧ sec * 1000000 + usec = offsetUs

/-- The correction leaves the clock alone and returns -1, or makes one call, which is right. -/
def CorrectsExactly (offsetUs : ℤ) (clock : Except Errno Timespec) (o : Outcome Daemon Event ℤ) :
    Prop :=
  match clockCalls o.trace with
  | [] => o.ret = -1
  | [call] => call.Corrects offsetUs clock
  | _ => False

theorem correctionCall_corrects {threshold : UInt16} {offsetUs : ℤ}
    {clock : Except Errno Timespec} (hoffset : InInt64 (-offsetUs))
    (hclock : ∀ now, clock = .ok now → 0 ≤ now.sec ∧ now.sec ≤ 9223372035) {call : ClockCall}
    (h : correctionCall threshold offsetUs clock = some call) : call.Corrects offsetUs clock := by
  unfold correctionCall at h
  split_ifs at h with hpanic hstep
  · cases hread : clock with
    | error e =>
      rw [hread] at h
      cases h
    | ok now =>
      rw [hread] at h
      obtain ⟨hsec, hmax⟩ := hclock now hread
      have hnsec := now.nsec_lt
      obtain ⟨hns, -⟩ := Int64Ops.inInt64_of_not_panics hoffset hpanic
      -- neither the reading nor the offset wraps around
      have hnow : now.ns = now.sec * 1000000000 + now.nsec := by
        unfold Timespec.ns
        rw [int64_eq (x := now.sec * 1000000000) (by unfold InInt64; omega)]
        exact int64_eq (by unfold InInt64; omega)
      unfold stepCall at h
      dsimp only at h
      split_ifs at h
      cases h
      rw [int64_eq hns, hnow]
      have hunit : (0 : ℤ) < 1000000000 := by decide
      obtain ⟨hnonneg, hlt, hsum⟩ := splitUnits_spec
        (now.sec * 1000000000 + now.nsec + offsetUs * 1000) hunit
      refine ⟨(exceeds_iff_lt_abs _ _).mp hstep, hnonneg, hlt, now, rfl, ?_⟩
      rw [hsum, mul_comm 1000]
  · -- up to the threshold the clock is slewed
    cases h
    have hunit : (0 : ℤ) < 1000000 := by decide
    obtain ⟨hnonneg, hlt, hsum⟩ := splitUnits_spec offsetUs hunit
    exact ⟨not_lt.mp (mt (exceeds_iff_lt_abs _ _).mpr hstep), hnonneg, hlt, hsum⟩

/-- **Step and slew are exact and normalised**: no operation of the correction overflows, and it
leaves the clock alone and returns -1, steps it by the offset, or slews it by the offset. -/
theorem applyTimeCorrection_exact (caller : CorrectionCaller) {offsetUs : ℤ}
    (hoffset : InInt64 offsetUs) (hmin : offsetUs ≠ int64Min) {env : CorrectionEnv}
    (hclock : ∀ now, env.clock = .ok now → 0 ≤ now.sec ∧ now.sec ≤ 9223372035) (d : Daemon) :
    let o := applyTimeCorrectionSlewOrStep caller offsetUs env d
    let ops := Int64Ops.applyTimeCorrectionSlewOrStep offsetUs env d
    (∀ op ∈ ops.trace, op.Exact) ∧ ops.ret = o.ret ∧ ops.state = o.state ∧
      CorrectsExactly offsetUs env.clock o := by
  intro o ops
  have hneg : InInt64 (-offsetUs) := by
    unfold InInt64 int64Min at *
    omega
  have hexact := Int64Ops.applyTimeCorrection_exactAs caller hoffset hmin hclock d
  obtain ⟨hret, hcalls⟩ := applyTimeCorrection_correctionOutcome caller offsetUs env d
  refine ⟨hexact.trace, hexact.ret, hexact.state, ?_⟩
  unfold CorrectsExactly
  rw [hcalls]
  -- a refused correction makes no call, any other one exactly one
  cases hcall : correctionCall d.mode.config.panicThreshold offsetUs env.clock with
  | none =>
    rw [hcall] at hret
    exact hret
  | some call => exact correctionCall_corrects hneg hclock hcall

/-- A kernel that reads `sec` and does what it is asked. -/
def workingKernel (sec : ℤ) : CorrectionEnv := ⟨.ok (wholeSecond sec), .ok (), .ok ()⟩

/-- A step to a time before the epoch. -/
theorem applyTimeCorrection_exact_beforeEpoch :
    let o := applyTimeCorrectionSlewOrStep .syncNtpTime (-600000) (workingKernel 0) Daemon.init
    let ops := Int64Ops.applyTimeCorrectionSlewOrStep (-600000) (workingKernel 0) Daemon.init
    (∀ op ∈ ops.trace, op.Exact) ∧ ops.ret = o.ret ∧ ops.state = o.state ∧
      CorrectsExactly (-600000) (workingKernel 0).clock o :=
  applyTimeCorrection_exact .syncNtpTime (by decide) (by decide) (by
    rintro _ ⟨⟩
    decide) Daemon.init

/-! ### The panic threshold -/

/-- The event is a call that set the clock or its slew. -/
def Event.HasSetClock : Event → Prop
  | .clockSettime _ _ ok => ok = true
  | .adjtime _ _ ok => ok = true
  | _ => False

/-- The outcome of a call is what the kernel answered. -/
def Event.AnsweredBy (env : CorrectionEnv) : Event → Prop
  | .clockSettime _ _ ok => ok = env.settime.toBool
  | .adjtime _ _ ok => ok = env.adjtime.toBool
  | _ => True

theorem Event.LocksOnly.answeredBy {ms : List Mutex} {e : Event} (he : e.LocksOnly ms)
    (env : CorrectionEnv) : e.AnsweredBy env := by
  cases e with
  | clockSettime => exact he.elim
  | adjtime => exact he.elim
  | _ => trivial

theorem sys_returns {α : Type} (r : Except Errno α) : Returns (· = r) (sys r) := sys_ret r

theorem applyTimeCorrection_answered (caller : CorrectionCaller) (offsetUs : ℤ)
    (env : CorrectionEnv) :
    Frame Daemon.eraseErrno (Event.AnsweredBy env)
      (applyTimeCorrectionSlewOrStep caller offsetUs env) := by
  unfold applyTimeCorrectionSlewOrStep
  refine .bind (.emit trivial) fun _ => .bind ?_ fun panic => .ite (.pure _) (.ite ?_ ?_)
  · exact (checkPanicCondition_frame offsetUs).mono Daemon.eraseErrno fun _ he => he.answeredBy env
  · unfold stepClock
    refine .bind (sys_frame _ _) fun r => ?_
    cases r with
    | error e => exact .pure _
    | ok now =>
      refine .ite (.pure _) (.ite (.pure _) (.bind_returns (sys_frame _ _) (sys_returns _) ?_))
      rintro _ rfl
      exact .bind (.emit rfl) fun _ => .pure _
  · unfold slewClock
    refine .bind_returns (sys_frame _ _) (sys_returns _) ?_
    rintro _ rfl
    exact .bind (.emit rfl) fun _ => .pure _

/-- For an offset past the threshold in microseconds the correction returns -1 and sets nothing. -/
def PanicProtects (threshold : UInt16) (offsetUs : ℤ) (o : Outcome Daemon Event ℤ) : Prop :=
  |offsetUs| > threshold.toNat * 1000000 → o.ret = -1 ∧ ∀ e ∈ o.trace, ¬ e.HasSetClock

/-- The offset exceeds the threshold in nanoseconds, taken for microseconds, or the clock has to be
stepped and cannot be read or be set, or the call fails. -/
def CorrectionFails (threshold : UInt16) (offsetUs : ℤ) (env : CorrectionEnv) : Prop :=
  (offsetUs ≠ int64Min ∧ |offsetUs| > threshold.toNat * 1000000000) ∨
    (|offsetUs| > stepThresholdUs ∧
      ∀ now, env.clock = .ok now → ¬ InInt64 (now.ns + int64 (offsetUs * 1000))) ∨
    (if |offsetUs| > stepThresholdUs then env.settime else env.adjtime).toBool = false

/-- The smallest offset is not negated, and never a panic. -/
theorem panics_iff_of_inInt64 {threshold : UInt16} {offsetUs : ℤ} (h : InInt64 offsetUs) :
    Panics threshold offsetUs ↔
      offsetUs ≠ int64Min ∧ |offsetUs| > threshold.toNat * 1000000000 := by
  by_cases hmin : offsetUs = int64Min
  · subst hmin
    have habs : abs64 int64Min = int64Min := by decide
    refine iff_of_false ?_ fun hcontra => hcontra.1 rfl
    unfold Panics int64Min
    rw [int64Min] at habs
    rw [habs]
    omega
  · rw [and_iff_right hmin]
    apply panics_iff
    unfold InInt64 int64Min at *
    omega

/-- A correction fails exactly if it returns -1. -/
theorem correctionFails_iff (caller : CorrectionCaller) {offsetUs : ℤ} (hoffset : InInt64 offsetUs)
    (env : CorrectionEnv) (d : Daemon) :
    CorrectionFails d.mode.config.panicThreshold offsetUs env ↔
      (applyTimeCorrectionSlewOrStep caller offsetUs env d).ret = -1 := by
  rw [(applyTimeCorrection_correctionOutcome caller offsetUs env d).ret]
  unfold CorrectionFails
  rw [← panics_iff_of_inInt64 hoffset, ← or_assoc, ← correctionCall_none_iff]
  cases hcall : correctionCall d.mode.config.panicThreshold offsetUs env.clock with
  | none => exact iff_of_true (.inl rfl) rfl
  | some call =>
    rw [or_iff_right nofun, ← answer_of_correctionCall hcall]
    show _ ↔ callStatus (env.answer call) = -1
    cases env.answer call with
    | error e => exact iff_of_true rfl rfl
    | ok a =>
      refine iff_of_false nofun ?_
      rw [callStatus_ok]
      decide

/-- A correction that fails does not set the clock. -/
theorem not_hasSetClock_of_fails (caller : CorrectionCaller) {offsetUs : ℤ} {env : CorrectionEnv}
    {d : Daemon} (hret : (applyTimeCorrectionSlewOrStep caller offsetUs env d).ret = -1) {e : Event}
    (he : e ∈ (applyTimeCorrectionSlewOrStep caller offsetUs env d).trace) : ¬ e.HasSetClock := by
  obtain ⟨hstatus, hcalls⟩ := applyTimeCorrection_correctionOutcome caller offsetUs env d
  have hanswer := (applyTimeCorrection_answered caller offsetUs env).trace d e he
  rw [hret] at hstatus
  -- a call that sets the clock is the call of the correction, and its status is 0
  intro hsets
  have hmem : ∀ call, e.clockCall = some call → (env.answer call).toBool = true → False := by
    intro call hcall hok
    have hcall' : call ∈ clockCalls (applyTimeCorrectionSlewOrStep caller offsetUs env d).trace :=
      List.mem_filterMap.mpr ⟨e, he, hcall⟩
    rw [hcalls, Option.mem_toList] at hcall'
    rw [Option.mem_def.mp hcall'] at hstatus
    have hzero : callStatus (env.answer call) = 0 := (callStatus_eq_zero_iff _).mpr hok
    exact absurd (hstatus.trans hzero) (by decide)
  cases e with
  | clockSettime sec nsec ok => exact hmem _ rfl (hanswer.symm.trans hsets)
  | adjtime sec usec ok => exact hmem _ rfl (hanswer.symm.trans hsets)
  | _ => exact hsets.elim

/-- **The panic threshold protects the clock** from the offsets past it exactly if the correction
fails: if they are past a thousand thresholds, or for a reason that is not the threshold. -/
theorem panicThreshold_protects_iff (caller : CorrectionCaller) {offsetUs : ℤ}
    (hoffset : InInt64 offsetUs) (env : CorrectionEnv) (d : Daemon) :
    PanicProtects d.mode.config.panicThreshold offsetUs
        (applyTimeCorrectionSlewOrStep caller offsetUs env d) ↔
      |offsetUs| ≤ d.mode.config.panicThreshold.toNat * 1000000 ∨
        CorrectionFails d.mode.config.panicThreshold offsetUs env := by
  rw [correctionFails_iff caller hoffset env d]
  unfold PanicProtects
  rw [gt_iff_lt, ← not_lt, ← imp_iff_not_or]
  refine imp_congr_right fun _ => and_iff_left_of_imp fun hret e he => ?_
  exact not_hasSetClock_of_fails caller hret he

/-- An offset past a thousand thresholds. -/
theorem panicThreshold_protects_month :
    PanicProtects 1000 2000000000000
      (applyTimeCorrectionSlewOrStep .syncNtpTime 2000000000000 (workingKernel 1700000000)
        Daemon.init) :=
  (panicThreshold_protects_iff .syncNtpTime (by decide) _ Daemon.init).mpr
    (.inr (.inl (by decide)))

/-- A step by 2000 s with a threshold of 1000 s. -/
theorem panicThreshold_not_protects :
    ¬ PanicProtects 1000 2000000000
      (applyTimeCorrectionSlewOrStep .syncNtpTime 2000000000 (workingKernel 1700000000)
        Daemon.init) ∧
      clockCalls (applyTimeCorrectionSlewOrStep .syncNtpTime 2000000000
        (workingKernel 1700000000) Daemon.init).trace = [.settime 1700002000 0] := by
  have hcalls : clockCalls (applyTimeCorrectionSlewOrStep .syncNtpTime 2000000000
      (workingKernel 1700000000) Daemon.init).trace = [.settime 1700002000 0] := by
    decide +kernel
  have hret : (applyTimeCorrectionSlewOrStep .syncNtpTime 2000000000 (workingKernel 1700000000)
      Daemon.init).ret = 0 := by
    decide +kernel
  refine ⟨fun hprotects => ?_, hcalls⟩
  have hfails := (hprotects (by decide)).1
  rw [hret] at hfails
  exact absurd hfails (by decide)

end Dntpd

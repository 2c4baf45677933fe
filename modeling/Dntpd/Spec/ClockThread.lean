import Dntpd.ClockThread
import Dntpd.Initial
import Dntpd.Spec.Threads
import Dntpd.Spec.TimeCorrection

/-!
# The clock thread before the first synchronisation

As long as there is no synchronisation time the thread takes the whole time of day for the offset.
An iteration leaves the clock alone exactly if that correction is refused
(`clockThread_unsynced_iff`), which a clock near the epoch is not.
-/

namespace Dntpd

open Proc CInt

/-! ### What an iteration does -/

/-- The events of an iteration. -/
def Event.InClockThread : Event → Prop
  | .lock m => m = .gMutex ∨ m = .gModeMutex
  | .unlock m => m = .gMutex ∨ m = .gModeMutex
  | .applyTimeCorrectionSlewOrStep c _ => c = .clockThreadMain
  | .clockSettime _ _ _ => True
  | .adjtime _ _ _ => True
  | _ => False

/-- A procedure of the clock thread changes nothing but the clock and `errno`. -/
abbrev ClockThreadStep {α : Type} (p : DProc α) : Prop :=
  Frame Daemon.eraseErrno Event.InClockThread p

theorem Event.InCorrection.inClockThread {offsetUs : ℤ} {e : Event}
    (he : e.InCorrection .clockThreadMain offsetUs) : e.InClockThread := by
  cases e with
  | lock m => exact .inr (List.mem_singleton.mp he)
  | unlock m => exact .inr (List.mem_singleton.mp he)
  | applyTimeCorrectionSlewOrStep c off => exact he.1
  | clockSettime => trivial
  | adjtime => trivial
  | _ => exact he.elim

theorem clockThreadWait_frame (intervalMs : ℤ) (env : ClockThreadEnv) (E : Event → Prop) :
    Frame Daemon.eraseErrno E (clockThreadWait intervalMs env) := by
  unfold clockThreadWait
  refine .bind (sys_frame _ _) fun r => ?_
  cases r with
  | error e => exact .pure _
  | ok now => exact .pure _

theorem clockThreadIteration_frame (ctx : ClockThreadContext) (env : ClockThreadEnv) :
    ClockThreadStep (clockThreadIteration ctx env) := by
  unfold clockThreadIteration
  refine .bind (sys_frame _ _) fun r => ?_
  cases r with
  | error e => exact .pure _
  | ok tv =>
    refine .bind (.emit (.inl rfl)) fun _ => .bind .read fun d => ?_
    refine .bind (.emit (.inl rfl)) fun _ => .bind ?_ fun _ => ?_
    · exact (applyTimeCorrection_frame _ _ _).mono id fun _ he => he.inClockThread
    · exact .bind (clockThreadWait_frame _ _ _) fun _ => .pure _

theorem clockThreadLoop_frame (ctx : ClockThreadContext) (envs : List ClockThreadEnv) :
    ClockThreadStep (clockThreadLoop ctx envs) := by
  induction envs generalizing ctx with
  | nil => exact .pure _
  | cons env envs ih =>
    refine .ite (.bind (clockThreadIteration_frame ctx env) fun r => ?_) (.pure _)
    exact .ite (ih r.1) (.pure _)

/-- The offset an iteration corrects. -/
def clockThreadOffset (tv : Timeval) (lastSyncTs : NtpTimestamp) : ℤ :=
  (int64 (nowNs tv - expectedNs lastSyncTs)).tdiv 1000

/-- The correction of an iteration, from the state it is made in. -/
def clockThreadCorrection (tv : Timeval) (env : ClockThreadEnv) (d : Daemon) :
    Outcome Daemon Event ℤ :=
  applyTimeCorrectionSlewOrStep .clockThreadMain (clockThreadOffset tv d.g.lastSyncTs)
    env.correction d

/-- Behind a section of `g_mutex` an iteration corrects the clock and waits. -/
theorem clockThreadIteration_trace {ctx : ClockThreadContext} {env : ClockThreadEnv}
    {tv : Timeval} (h : env.gettimeofday = .ok tv) (d : Daemon) :
    (clockThreadIteration ctx env d).trace =
      [.lock .gMutex, .unlock .gMutex] ++ ((clockThreadCorrection tv env d).trace ++
        ((clockThreadWait ctx.intervalMs env (clockThreadCorrection tv env d).state).trace ++
          [])) := by
  unfold clockThreadIteration
  rw [h]
  rfl

/-- The calls of an iteration are those of its correction. -/
theorem clockCalls_clockThreadIteration {ctx : ClockThreadContext} {env : ClockThreadEnv}
    {tv : Timeval} (h : env.gettimeofday = .ok tv) (d : Daemon) :
    clockCalls (clockThreadIteration ctx env d).trace =
      (correctionCall d.mode.config.panicThreshold (clockThreadOffset tv d.g.lastSyncTs)
        env.correction.clock).toList := by
  have hcall : clockCalls (clockThreadCorrection tv env d).trace = _ :=
    (applyTimeCorrection_correctionOutcome .clockThreadMain
      (clockThreadOffset tv d.g.lastSyncTs) env.correction d).calls
  -- the wait at the end makes no such call
  have hwait := clockCalls_of_frame (clockThreadWait_frame ctx.intervalMs env fun _ => False)
    (fun _ he => he.elim) (clockThreadCorrection tv env d).state
  rw [clockThreadIteration_trace h, clockCalls_append, clockCalls_append, clockCalls_append, hcall,
    hwait]
  exact List.append_nil _

/-! ### Before the first synchronisation -/

/-- The time of day in microseconds, through nanoseconds of 64 bits. -/
def Timeval.microseconds (tv : Timeval) : ℤ := (nowNs tv).tdiv 1000

theorem Timeval.inInt64_nowNs (tv : Timeval) : InInt64 (nowNs tv) := inInt64_int64 _

theorem Timeval.inInt64_microseconds (tv : Timeval) : InInt64 (tv.microseconds * 1000) := by
  have hns := tv.inInt64_nowNs
  unfold InInt64 microseconds at *
  -- the division truncates towards zero
  by_cases hneg : nowNs tv < 0
  · have hdiv : (nowNs tv).tdiv 1000 = -((-nowNs tv) / 1000) := by
      rw [← Int.tdiv_eq_ediv_of_nonneg (by omega), Int.neg_tdiv, neg_neg]
    omega
  · have hdiv : (nowNs tv).tdiv 1000 = nowNs tv / 1000 := Int.tdiv_eq_ediv_of_nonneg (by omega)
    omega

/-- Without a synchronisation time the whole time of day is the offset. -/
theorem clockThreadOffset_zero (tv : Timeval) : clockThreadOffset tv ⟨0, 0⟩ = tv.microseconds := by
  unfold clockThreadOffset Timeval.microseconds
  have hexpected : expectedNs ⟨0, 0⟩ = 0 := by decide
  rw [hexpected, sub_zero, int64_eq tv.inInt64_nowNs]

theorem clockCalls_of_gettimeofday_error {ctx : ClockThreadContext} {env : ClockThreadEnv}
    {e : Errno} (h : env.gettimeofday = .error e) (d : Daemon) :
    clockCalls (clockThreadIteration ctx env d).trace = [] := by
  unfold clockThreadIteration
  rw [h]
  rfl

/-- Before the first synchronisation the time of day itself is corrected. -/
theorem clockCalls_unsynced {ctx : ClockThreadContext} {env : ClockThreadEnv} {tv : Timeval}
    (h : env.gettimeofday = .ok tv) {d : Daemon} (hunsynced : d.g.lastSyncTs = ⟨0, 0⟩) :
    clockCalls (clockThreadIteration ctx env d).trace =
      (correctionCall d.mode.config.panicThreshold tv.microseconds
        env.correction.clock).toList := by
  rw [clockCalls_clockThreadIteration h, hunsynced, clockThreadOffset_zero]

/-- Before the first synchronisation an iteration leaves the clock alone exactly if the time of day
is not to be had or is refused as an offset. -/
theorem clockThread_unsynced_iff (ctx : ClockThreadContext) (env : ClockThreadEnv) {d : Daemon}
    (hunsynced : d.g.lastSyncTs = ⟨0, 0⟩) :
    clockCalls (clockThreadIteration ctx env d).trace = [] ↔
      ∀ tv, env.gettimeofday = .ok tv →
        CorrectionRefused d.mode.config.panicThreshold tv.microseconds env.correction.clock := by
  cases htime : env.gettimeofday with
  | error e => exact iff_of_true (clockCalls_of_gettimeofday_error htime d) nofun
  | ok tv =>
    rw [clockCalls_unsynced htime hunsynced, Option.toList_eq_nil_iff,
      correctionCall_eq_none_iff tv.inInt64_microseconds]
    constructor
    · rintro hrefused _ ⟨⟩
      exact hrefused
    · exact fun hall => hall tv rfl

/-- The outside refuses the thread's correction of an unsynchronised daemon. -/
def ClockThreadEnv.Refuses (env : ClockThreadEnv) (threshold : UInt16) : Prop :=
  ∀ tv, env.gettimeofday = .ok tv →
    correctionCall threshold tv.microseconds env.correction.clock = none

theorem ClockThreadEnv.Refuses.clockCalls {env : ClockThreadEnv} {d : Daemon}
    (h : env.Refuses d.mode.config.panicThreshold) (hunsynced : d.g.lastSyncTs = ⟨0, 0⟩)
    (ctx : ClockThreadContext) : clockCalls (clockThreadIteration ctx env d).trace = [] := by
  cases htime : env.gettimeofday with
  | error e => exact clockCalls_of_gettimeofday_error htime d
  | ok tv =>
    rw [clockCalls_unsynced htime hunsynced, h tv htime]
    rfl

/-- So does the whole loop, if every one of its corrections is refused. -/
theorem clockCalls_clockThreadLoop_unsynced {envs : List ClockThreadEnv} {d : Daemon}
    (ctx : ClockThreadContext) (hunsynced : d.g.lastSyncTs = ⟨0, 0⟩)
    (hrefuses : ∀ env ∈ envs, env.Refuses d.mode.config.panicThreshold) :
    clockCalls (clockThreadLoop ctx envs d).trace = [] := by
  induction envs generalizing ctx d with
  | nil => rfl
  | cons env envs ih =>
    have hstate := (clockThreadIteration_frame ctx env).state d
    have hg : (clockThreadIteration ctx env d).state.g = d.g := (congrArg Daemon.g hstate :)
    have hmode : (clockThreadIteration ctx env d).state.mode = d.mode :=
      (congrArg Daemon.mode hstate :)
    -- an iteration leaves the synchronisation time and the threshold as they are
    have hfirst := (hrefuses env List.mem_cons_self).clockCalls hunsynced ctx
    have hrest := ih (clockThreadIteration ctx env d).ret.1 (hg ▸ hunsynced)
      fun env' henv' => hmode ▸ hrefuses env' (List.mem_cons_of_mem env henv')
    unfold clockThreadLoop
    rw [ite_trace]
    split_ifs
    · rw [bind_trace, clockCalls_append, hfirst, List.nil_append, ite_trace]
      split_ifs
      · exact hrest
      · rfl
    · rfl

/-- A clock that starts at the epoch: 100 s later every call succeeds. -/
def bootEnv : ClockThreadEnv where
  running := true
  gettimeofday := .ok ⟨100, 0, by decide⟩
  correction := ⟨.ok (wholeSecond 100), .ok (), .ok ()⟩
  deadlineClock := .ok (wholeSecond 100)
  timedwait := fun _ _ => ETIMEDOUT
  interrupted := true

/-- A clock that was set before the daemon started. -/
def wallClockEnv : ClockThreadEnv :=
  { bootEnv with gettimeofday := .ok ⟨1700000000, 0, by decide⟩ }

/-- The offset of a clock that is set is a panic. -/
theorem clockThread_unsynced_wallClock :
    clockCalls (clockThreadIteration ⟨1000, 0, 0⟩ wallClockEnv Daemon.init).trace = [] :=
  (clockThread_unsynced_iff ⟨1000, 0, 0⟩ wallClockEnv rfl).mpr (by
    rintro _ ⟨⟩
    exact .inl (by decide))

/-- A clock at 100 s after the epoch is set to 200 s. -/
theorem bootEnv_steps :
    Daemon.init.g.lastSyncTs = ⟨0, 0⟩ ∧
      clockCalls (clockThreadIteration ⟨1000, 0, 0⟩ bootEnv Daemon.init).trace =
        [.settime 200 0] := by
  refine ⟨rfl, ?_⟩
  rw [clockCalls_clockThreadIteration rfl]
  decide

end Dntpd

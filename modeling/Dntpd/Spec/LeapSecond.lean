import Dntpd.LeapSecond
import Dntpd.Spec.ModeHandler

/-!
# Clock corrections and the leap-second module: what they may touch

A correction changes nothing but the system clock and `errno` (`applyTimeCorrection_frame`); the
leap-second module changes its own state and takes its own mutex
(`leapSecondIntegrationCheck_frame`).  A leap indicator of 1 or 2 schedules an event unless one is
scheduled or the clock fails (`handleLeapIndicator_leap`).
-/

namespace Dntpd

open Proc

/-! ### Parts of the state -/

/-- The daemon without `errno`. -/
def Daemon.eraseErrno (d : Daemon) : Daemon := { d with errno := 0 }

/-- The daemon without `errno` and the leap-second state. -/
def Daemon.eraseLeap (d : Daemon) : Daemon := { d with errno := 0, leap := LeapSecondState.zero }

/-! ### Corrections -/

/-- The events of a correction by `offsetUs` that `caller` asked for. -/
def Event.InCorrection (caller : CorrectionCaller) (offsetUs : ℤ) : Event → Prop
  | .lock m => m ∈ [Mutex.gModeMutex]
  | .unlock m => m ∈ [Mutex.gModeMutex]
  | .applyTimeCorrectionSlewOrStep c off => c = caller ∧ off = offsetUs
  | .clockSettime _ _ _ => True
  | .adjtime _ _ _ => True
  | _ => False

theorem ModeQuery.inCorrection {α : Type} {p : DProc α} (hp : ModeQuery p)
    (caller : CorrectionCaller) (offsetUs : ℤ) :
    Frame Daemon.eraseErrno (Event.InCorrection caller offsetUs) p := by
  refine hp.mono Daemon.eraseErrno fun e he => ?_
  cases e with
  | lock m => exact he
  | unlock m => exact he
  | _ => exact he.elim

theorem applyTimeCorrection_frame (caller : CorrectionCaller) (offsetUs : ℤ)
    (env : CorrectionEnv) :
    Frame Daemon.eraseErrno (Event.InCorrection caller offsetUs)
      (applyTimeCorrectionSlewOrStep caller offsetUs env) := by
  have hstep : Frame Daemon.eraseErrno (Event.InCorrection caller offsetUs)
      (stepClock offsetUs env) := by
    unfold stepClock
    refine .bind (sys_frame _ _) fun r => ?_
    cases r with
    | error e => exact .pure _
    | ok now =>
      exact .ite (.pure _) (.ite (.pure _)
        (.bind (sys_frame _ _) fun _ => .bind (.emit trivial) fun _ => .pure _))
  have hslew : Frame Daemon.eraseErrno (Event.InCorrection caller offsetUs)
      (slewClock offsetUs env) := by
    unfold slewClock
    exact .bind (sys_frame _ _) fun _ => .bind (.emit trivial) fun _ => .pure _
  -- a panic returns at once; the other two ways make one call each
  unfold applyTimeCorrectionSlewOrStep
  exact .bind (.emit ⟨rfl, rfl⟩) fun _ =>
    .bind ((checkPanicCondition_frame offsetUs).inCorrection _ _) fun _ =>
      .ite (.pure _) (.ite hstep hslew)

/-- A correction is an event of its own trace. -/
theorem mem_applyTimeCorrection_trace (caller : CorrectionCaller) (offsetUs : ℤ)
    (env : CorrectionEnv) (d : Daemon) :
    Event.applyTimeCorrectionSlewOrStep caller offsetUs
      ∈ (applyTimeCorrectionSlewOrStep caller offsetUs env d).trace := by
  unfold applyTimeCorrectionSlewOrStep
  rw [bind_trace]
  exact List.mem_append_left _ (List.mem_singleton_self _)

/-! ### Scheduling -/

/-- A step of the leap-second module that issues no correction. -/
abbrev LeapStep {α : Type} (p : DProc α) : Prop :=
  Frame Daemon.eraseLeap (Event.LocksOnly [.gLeapSecondMutex]) p

theorem leapSecondGetEndOfMinuteTime_frame (clock : Except Errno Timespec) :
    LeapStep (leapSecondGetEndOfMinuteTime clock) := by
  unfold leapSecondGetEndOfMinuteTime
  refine .bind ((sys_frame _ _).mono Daemon.eraseLeap fun _ he => he) fun r => ?_
  cases r with
  | error e => exact .pure _
  | ok ts => exact .pure _

theorem leapSecondScheduleEvent_frame (leapDir : UInt8) (env : LeapScheduleEnv) :
    LeapStep (leapSecondScheduleEvent leapDir env) := by
  have hlock : Event.LocksOnly [.gLeapSecondMutex] (.lock .gLeapSecondMutex) :=
    List.mem_singleton_self _
  have hunlock : Event.LocksOnly [.gLeapSecondMutex] (.unlock .gLeapSecondMutex) :=
    List.mem_singleton_self _
  have hexit : ∀ r : ℤ, LeapStep (do
      unlock .gLeapSecondMutex
      return r) := fun r => .bind (.emit hunlock) fun _ => .pure _
  unfold leapSecondScheduleEvent
  refine .bind (.emit hlock) fun _ => .bind .read fun d => .ite (hexit _) ?_
  refine .bind (leapSecondGetEndOfMinuteTime_frame _) fun eom => .ite (hexit _) ?_
  exact .bind (.update fun _ => rfl) fun _ => hexit _

theorem handleLeapIndicator_frame (li : UInt8) (env : LeapScheduleEnv) :
    LeapStep (handleLeapIndicator li env) := by
  have hschedule : ∀ leapDir : UInt8, LeapStep (do
      let _ ← leapSecondScheduleEvent leapDir env
      return false) :=
    fun leapDir => .bind (leapSecondScheduleEvent_frame leapDir env) fun _ => .pure _
  unfold handleLeapIndicator
  exact .ite (.pure _) (.ite (hschedule _) (.ite (hschedule _) (.pure _)))

/-- A packet is skipped exactly for a leap indicator past 2. -/
theorem handleLeapIndicator_ret (li : UInt8) (env : LeapScheduleEnv) (d : Daemon) :
    (handleLeapIndicator li env d).ret = decide (li ≠ 0 ∧ li ≠ 1 ∧ li ≠ 2) := by
  unfold handleLeapIndicator
  by_cases h0 : li = 0
  · simp [h0]
  by_cases h1 : li = 1
  · simp [h1]
  by_cases h2 : li = 2
  · simp [h2]
  simp [h0, h1, h2]

/-- The end of the current minute as the module computes it; 0 when the clock fails. -/
def endOfMinuteTime (clock : Except Errno Timespec) : ℤ :=
  match clock with
  | .error _ => 0
  | .ok ts => ts.sec + (60 - ts.sec.tmod 60)

theorem leapSecondGetEndOfMinuteTime_ret (clock : Except Errno Timespec) (d : Daemon) :
    (leapSecondGetEndOfMinuteTime clock d).ret = endOfMinuteTime clock := by
  cases clock <;> rfl

theorem leapSecondGetEndOfMinuteTime_leap (clock : Except Errno Timespec) (d : Daemon) :
    (leapSecondGetEndOfMinuteTime clock d).state.leap = d.leap := by
  cases clock <;> rfl

/-- An event is stored unless one is scheduled or the end of the minute is not to be had. -/
theorem leapSecondScheduleEvent_leap (leapDir : UInt8) (env : LeapScheduleEnv) (d : Daemon) :
    (leapSecondScheduleEvent leapDir env d).state.leap =
      if d.leap.eventScheduled = true ∨ endOfMinuteTime env.endOfMinuteClock = 0 then d.leap
      else d.leap.schedule leapDir (endOfMinuteTime env.endOfMinuteClock) env.now := by
  have hleap := leapSecondGetEndOfMinuteTime_leap env.endOfMinuteClock d
  have hret := leapSecondGetEndOfMinuteTime_ret env.endOfMinuteClock d
  unfold leapSecondScheduleEvent lock unlock
  by_cases hs : d.leap.eventScheduled = true
  · simp [hs]
  by_cases heom : endOfMinuteTime env.endOfMinuteClock = 0
  · simp [hs, hret, heom, hleap]
  · simp [hs, hret, heom, hleap]

/-- The leap-second state after a packet with this leap indicator. -/
def LeapSecondState.indicated (s : LeapSecondState) (li : UInt8) (env : LeapScheduleEnv) :
    LeapSecondState :=
  if (li = 1 ∨ li = 2) ∧ ¬ (s.eventScheduled = true ∨ endOfMinuteTime env.endOfMinuteClock = 0) then
    s.schedule li (endOfMinuteTime env.endOfMinuteClock) env.now
  else s

/-- What a leap indicator does to the leap-second state. -/
theorem handleLeapIndicator_leap (li : UInt8) (env : LeapScheduleEnv) (d : Daemon) :
    (handleLeapIndicator li env d).state.leap = d.leap.indicated li env := by
  have hschedule := fun leapDir => leapSecondScheduleEvent_leap leapDir env d
  unfold handleLeapIndicator LeapSecondState.indicated
  by_cases h1 : li = 1
  · subst h1
    simp [hschedule, leapSecondDirPositive]
    grind
  by_cases h2 : li = 2
  · subst h2
    simp [hschedule, leapSecondDirNegative]
    grind
  · by_cases h0 : li = 0 <;> simp [h0, h1, h2]

/-! ### Applying, and the leap file -/

/-- The events of the leap-second module: its mutex, and the corrections it asks for. -/
def Event.InLeapModule : Event → Prop
  | .lock m => m ∈ [Mutex.gLeapSecondMutex, Mutex.gModeMutex]
  | .unlock m => m ∈ [Mutex.gLeapSecondMutex, Mutex.gModeMutex]
  | .applyTimeCorrectionSlewOrStep c _ => c = .leapSecondApplyCorrection
  | .clockSettime _ _ _ => True
  | .adjtime _ _ _ => True
  | _ => False

theorem Event.InCorrection.inLeapModule {offsetUs : ℤ} {e : Event}
    (he : e.InCorrection .leapSecondApplyCorrection offsetUs) : e.InLeapModule := by
  cases e with
  | lock m => exact List.mem_cons_of_mem _ he
  | unlock m => exact List.mem_cons_of_mem _ he
  | applyTimeCorrectionSlewOrStep c off => exact he.1
  | _ => exact he

/-- A step of the leap-second module. -/
abbrev LeapModule {α : Type} (p : DProc α) : Prop :=
  Frame Daemon.eraseLeap Event.InLeapModule p

theorem LeapStep.leapModule {α : Type} {p : DProc α} (hp : LeapStep p) : LeapModule p := by
  refine hp.mono Daemon.eraseLeap fun e he => ?_
  cases e with
  | lock m => exact List.mem_cons.mpr (.inl (List.mem_singleton.mp he))
  | unlock m => exact List.mem_cons.mpr (.inl (List.mem_singleton.mp he))
  | _ => exact he.elim

theorem leapModule_lock : LeapModule (lock .gLeapSecondMutex) := .emit List.mem_cons_self

theorem leapModule_exit (r : ℤ) : LeapModule (do
    unlock .gLeapSecondMutex
    return r) := .bind (.emit List.mem_cons_self) fun _ => .pure _

theorem leapSecondApplyCorrection_frame (leapDir : UInt8) (env : LeapApplyEnv) :
    LeapModule (leapSecondApplyCorrection leapDir env) := by
  unfold leapSecondApplyCorrection
  refine .bind leapModule_lock fun _ => .bind .read fun d => ?_
  refine .ite (leapModule_exit _) (.ite (leapModule_exit _) ?_)
  refine .bind ((applyTimeCorrection_frame _ _ _).mono Daemon.eraseLeap
    fun _ he => he.inLeapModule) fun r => ?_
  exact .bind (.update fun _ => rfl) fun _ => leapModule_exit _

theorem leapSecondCheckAndApply_frame (now : ℤ) (env : LeapApplyEnv) :
    LeapModule (leapSecondCheckAndApply now env) := by
  unfold leapSecondCheckAndApply
  refine .bind leapModule_lock fun _ => .bind .read fun d => .ite ?_ (leapModule_exit _)
  exact .bind (leapSecondApplyCorrection_frame _ _) fun _ => leapModule_exit _

theorem leapSecondReadFile_frame (env : LeapFileEnv) : LeapModule (leapSecondReadFile env) := by
  unfold leapSecondReadFile
  refine .bind ((sys_frame _ _).mono Daemon.eraseLeap fun _ he => he) fun stat => ?_
  cases stat with
  | error e => exact .pure _
  | ok =>
    refine .bind ((sys_frame _ _).mono Daemon.eraseLeap fun _ he => he) fun fopen => ?_
    cases fopen with
    | error e => exact .pure _
    | ok =>
      cases env.leapDir with
      | none => exact .pure _
      | some leapDir =>
        exact .ite (.pure _)
          (.bind (leapSecondScheduleEvent_frame _ _).leapModule fun _ => .pure _)

theorem leapSecondCheckFile_frame (env : LeapFileEnv) : LeapModule (leapSecondCheckFile env) := by
  unfold leapSecondCheckFile
  refine .bind leapModule_lock fun _ => .bind .read fun d => ?_
  refine .ite (leapModule_exit _) (.ite (leapModule_exit _) ?_)
  cases env.year with
  | none => exact leapModule_exit _
  | some year =>
    refine .ite (leapModule_exit _) (.bind (leapSecondReadFile_frame env) fun read => ?_)
    exact .ite (.bind (.update fun _ => rfl) fun _ => leapModule_exit _) (leapModule_exit _)

theorem leapSecondIntegrationCheck_frame (env : LeapCheckEnv) :
    LeapModule (leapSecondIntegrationCheck env) := by
  unfold leapSecondIntegrationCheck
  refine .bind (leapSecondCheckFile_frame _) fun file => .ite (.pure _) ?_
  exact .bind (leapSecondCheckAndApply_frame _ _) fun _ => .pure _

end Dntpd

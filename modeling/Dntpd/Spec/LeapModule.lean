import Dntpd.Initial
import Dntpd.Library.Run
import Dntpd.Spec.LeapSecond
import Dntpd.Spec.Threads

/-!
# The leap-second module: its event, its corrections and its mutex

`LeapOutcome` says of a run of the module what it leaves in the module's state, which corrections it
asks for (`LeapEffect`), and what it does to `g_leap_second_mutex`; every function has one such
lemma.

From them: the three records of a pending event agree after any sequence of calls, and a correction
is asked for only when the event is due (`leapModule_consistent`).  The two functions that call
another one lock a mutex they hold, as soon as they get as far as the call
(`LeapCall.disciplined_iff_not_nests`).
-/

namespace Dntpd

open Proc

/-! ### Outcomes -/

/-- The correction an event asks for on behalf of the module. -/
def Event.leapAttempt : Event → Option ℤ
  | .applyTimeCorrectionSlewOrStep .leapSecondApplyCorrection offsetUs => some offsetUs
  | _ => none

/-- The corrections a trace asks for on behalf of the module. -/
def leapAttempts (tr : List Event) : List ℤ := tr.filterMap Event.leapAttempt

@[simp] theorem leapAttempts_append (tr tr' : List Event) :
    leapAttempts (tr ++ tr') = leapAttempts tr ++ leapAttempts tr' :=
  List.filterMap_append

/-- The module's state after a run, and the corrections it asked for. -/
structure LeapEffect {α : Type} (o : Outcome Daemon Event α) (leap : LeapSecondState)
    (attempts : List ℤ) : Prop where
  leap : o.state.leap = leap
  attempts : leapAttempts o.trace = attempts

theorem LeapEffect.bind {α β : Type} {d : Daemon} {leap leap' : LeapSecondState}
    {attempts attempts' : List ℤ} {p : DProc α} {f : α → DProc β}
    (hp : LeapEffect (p d) leap attempts)
    (hf : LeapEffect (f (p d).ret (p d).state) leap' attempts') :
    LeapEffect ((p >>= f) d) leap' (attempts ++ attempts') where
  leap := hf.leap
  attempts := by rw [bind_trace, leapAttempts_append, hp.attempts, hf.attempts]

/-- The same, with the operations on the mutex. -/
structure LeapOutcome {α : Type} (o : Outcome Daemon Event α) (leap : LeapSecondState)
    (attempts : List ℤ) (ops : List LockTrace.Op) : Prop extends LeapEffect o leap attempts where
  lockOps : lockOps .gLeapSecondMutex o.trace = ops

namespace LeapOutcome

variable {α β : Type} {d : Daemon}

theorem bind {p : DProc α} {f : α → DProc β} {leap leap' : LeapSecondState}
    {attempts attempts' : List ℤ} {ops ops' : List LockTrace.Op}
    (hp : LeapOutcome (p d) leap attempts ops)
    (hf : LeapOutcome (f (p d).ret (p d).state) leap' attempts' ops') :
    LeapOutcome ((p >>= f) d) leap' (attempts ++ attempts') (ops ++ ops') where
  toLeapEffect := hp.toLeapEffect.bind hf.toLeapEffect
  lockOps := by rw [bind_trace, lockOps_append, hp.lockOps, hf.lockOps]

theorem pure (a : α) : LeapOutcome ((Pure.pure a : DProc α) d) d.leap [] [] := ⟨⟨rfl, rfl⟩, rfl⟩

theorem lock_bind {f : PUnit → DProc β} {leap : LeapSecondState} {attempts : List ℤ}
    {ops : List LockTrace.Op} (h : LeapOutcome (f ⟨⟩ d) leap attempts ops) :
    LeapOutcome ((lock .gLeapSecondMutex >>= f) d) leap attempts (.acquire :: ops) where
  leap := h.leap
  attempts := h.attempts
  lockOps := congrArg (LockTrace.Op.acquire :: ·) h.lockOps

theorem update (f : Daemon → Daemon) : LeapOutcome (Proc.update f d : Outcome Daemon Event PUnit)
    (f d).leap [] [] := ⟨⟨rfl, rfl⟩, rfl⟩

theorem read_bind {f : Daemon → DProc β} {leap : LeapSecondState} {attempts : List ℤ}
    {ops : List LockTrace.Op} (h : LeapOutcome (f d d) leap attempts ops) :
    LeapOutcome ((Proc.read >>= f) d) leap attempts ops := ⟨⟨h.leap, h.attempts⟩, h.lockOps⟩

theorem congr_leap {o : Outcome Daemon Event α} {leap leap' : LeapSecondState} {attempts : List ℤ}
    {ops : List LockTrace.Op} (h : LeapOutcome o leap attempts ops) (heq : leap = leap') :
    LeapOutcome o leap' attempts ops := heq ▸ h

/-- The exits that unlock and return. -/
theorem exit (r : ℤ) : LeapOutcome ((do
    unlock .gLeapSecondMutex
    return r : DProc ℤ) d) d.leap [] [.release] := ⟨⟨rfl, rfl⟩, rfl⟩

end LeapOutcome

/-- The event is neither a correction for the module nor an operation on its mutex. -/
def Event.LeapQuiet (e : Event) : Prop :=
  e.leapAttempt = none ∧ e.lockOp .gLeapSecondMutex = none

/-- The procedure has nothing to do with the module. -/
abbrev LeapQuiet {α : Type} (p : DProc α) : Prop := Frame Daemon.leap Event.LeapQuiet p

theorem LeapQuiet.outcome {α : Type} {p : DProc α} (hp : LeapQuiet p) (d : Daemon) :
    LeapOutcome (p d) d.leap [] [] where
  leap := hp.state d
  attempts := hp.filterMap_eq_nil (fun _ he => he.1) d
  lockOps := hp.filterMap_eq_nil (fun _ he => he.2) d

theorem LeapQuiet.bind_outcome {α β : Type} {p : DProc α} {f : α → DProc β} (hp : LeapQuiet p)
    {d : Daemon} {leap : LeapSecondState} {attempts : List ℤ} {ops : List LockTrace.Op}
    (hf : LeapOutcome (f (p d).ret (p d).state) leap attempts ops) :
    LeapOutcome ((p >>= f) d) leap attempts ops :=
  (hp.outcome d).bind hf

theorem sys_leapQuiet {α : Type} (r : Except Errno α) : LeapQuiet (sys r) :=
  (sys_frame r fun _ => False).mono Daemon.leap fun _ he => he.elim

/-! ### Corrections -/

theorem stepClock_leapQuiet (offsetUs : ℤ) (env : CorrectionEnv) :
    LeapQuiet (stepClock offsetUs env) := by
  unfold stepClock
  refine .bind (sys_leapQuiet _) fun r => ?_
  cases r with
  | error e => exact .pure _
  | ok now =>
    exact .ite (.pure _) (.ite (.pure _)
      (.bind (sys_leapQuiet _) fun _ => .bind (.emit ⟨rfl, rfl⟩) fun _ => .pure _))

theorem slewClock_leapQuiet (offsetUs : ℤ) (env : CorrectionEnv) :
    LeapQuiet (slewClock offsetUs env) := by
  unfold slewClock
  exact .bind (sys_leapQuiet _) fun _ => .bind (.emit ⟨rfl, rfl⟩) fun _ => .pure _

theorem checkPanicCondition_leapQuiet (offsetUs : ℤ) :
    LeapQuiet (checkPanicCondition offsetUs) := by
  refine (checkPanicCondition_frame offsetUs).mono Daemon.leap fun e he => ?_
  cases e with
  | lock m =>
    obtain rfl := List.mem_singleton.mp he
    exact ⟨rfl, rfl⟩
  | unlock m =>
    obtain rfl := List.mem_singleton.mp he
    exact ⟨rfl, rfl⟩
  | _ => exact he.elim

/-- A correction for the module is one event of its own, and nothing else of the module's. -/
theorem applyTimeCorrection_outcome (offsetUs : ℤ) (env : CorrectionEnv) (d : Daemon) :
    LeapOutcome (applyTimeCorrectionSlewOrStep .leapSecondApplyCorrection offsetUs env d) d.leap
      [offsetUs] [] := by
  have hrest : LeapQuiet (do
      let panic ← checkPanicCondition offsetUs
      if panic then return -1
      else if offsetUs > stepThresholdUs ∨ offsetUs < -stepThresholdUs then stepClock offsetUs env
      else slewClock offsetUs env : DProc ℤ) :=
    .bind (checkPanicCondition_leapQuiet offsetUs) fun _ =>
      .ite (.pure _) (.ite (stepClock_leapQuiet _ _) (slewClock_leapQuiet _ _))
  have hcall : LeapOutcome (Proc.emit
      (.applyTimeCorrectionSlewOrStep .leapSecondApplyCorrection offsetUs) d :
        Outcome Daemon Event PUnit) d.leap [offsetUs] [] := ⟨⟨rfl, rfl⟩, rfl⟩
  exact hcall.bind (hrest.outcome d)

/-! ### Scheduling -/

/-- The state after an announcement: an event is stored unless one is pending or the end of the
minute is not to be had. -/
def LeapSecondState.announced (s : LeapSecondState) (leapDir : UInt8) (env : LeapScheduleEnv) :
    LeapSecondState :=
  if s.eventScheduled = true ∨ endOfMinuteTime env.endOfMinuteClock = 0 then s
  else s.schedule leapDir (endOfMinuteTime env.endOfMinuteClock) env.now

theorem leapSecondScheduleEvent_outcome (leapDir : UInt8) (env : LeapScheduleEnv) (d : Daemon) :
    LeapOutcome (leapSecondScheduleEvent leapDir env d) (d.leap.announced leapDir env) []
      [.acquire, .release] := by
  have hret := leapSecondGetEndOfMinuteTime_ret env.endOfMinuteClock d
  have hleap := leapSecondGetEndOfMinuteTime_leap env.endOfMinuteClock d
  have hquiet : LeapQuiet (leapSecondGetEndOfMinuteTime env.endOfMinuteClock) := by
    unfold leapSecondGetEndOfMinuteTime
    refine .bind (sys_leapQuiet _) fun r => ?_
    cases r <;> exact .pure _
  unfold leapSecondScheduleEvent LeapSecondState.announced
  refine .lock_bind (.read_bind ?_)
  -- an event that stands, or a clock that cannot be read, ends it before anything is written
  by_cases hs : d.leap.eventScheduled = true
  · rw [if_pos hs, if_pos (.inl hs)]
    exact .exit _
  rw [if_neg hs]
  refine hquiet.bind_outcome ?_
  rw [hret]
  -- `0` is what the end of the minute is without a clock
  by_cases heom : endOfMinuteTime env.endOfMinuteClock = 0
  · rw [if_pos heom, if_pos (.inr heom), ← hleap]
    exact .exit _
  · rw [if_neg heom, if_neg (not_or.mpr ⟨hs, heom⟩)]
    exact ((LeapOutcome.update _).bind (.exit _)).congr_leap
      (congrArg (fun s => s.schedule leapDir (endOfMinuteTime env.endOfMinuteClock) env.now) hleap)

/-! ### Applying -/

/-- An event is pending, and its time has come. -/
def LeapSecondState.Due (s : LeapSecondState) (now : ℤ) : Prop :=
  s.eventScheduled = true ∧ s.eventTime ≤ now

instance (s : LeapSecondState) (now : ℤ) : Decidable (s.Due now) := by
  unfold LeapSecondState.Due
  infer_instance

/-- The state without its event. -/
def LeapSecondState.cleared (s : LeapSecondState) : LeapSecondState :=
  { s with pendingOffsetUs := 0, pendingLeapDir := 0, eventScheduled := false }

/-- An event that is due is applied once, and gone, whether the correction succeeds or not. -/
theorem leapSecondApplyCorrection_outcome (leapDir : UInt8) (env : LeapApplyEnv) (d : Daemon) :
    LeapOutcome (leapSecondApplyCorrection leapDir env d)
      (if d.leap.Due env.now then d.leap.cleared else d.leap)
      (if d.leap.Due env.now then [d.leap.pendingOffsetUs] else []) [.acquire, .release] := by
  unfold leapSecondApplyCorrection
  refine .lock_bind (.read_bind ?_)
  by_cases hs : d.leap.eventScheduled = true
  swap
  · have hdue : ¬ d.leap.Due env.now := fun h => hs h.1
    rw [if_pos (by rw [Bool.eq_false_iff.mpr hs]; rfl), if_neg hdue, if_neg hdue]
    exact .exit _
  rw [if_neg (by rw [hs]; decide)]
  by_cases hnow : env.now < d.leap.eventTime
  · have hdue : ¬ d.leap.Due env.now := fun h => absurd h.2 (not_le.mpr hnow)
    rw [if_pos hnow, if_neg hdue, if_neg hdue]
    exact .exit _
  · -- due: the clock is corrected and the event cleared, whatever came of it
    have hdue : d.leap.Due env.now := ⟨hs, not_lt.mp hnow⟩
    have hcall := applyTimeCorrection_outcome d.leap.pendingOffsetUs env.correction d
    rw [if_neg hnow, if_pos hdue, if_pos hdue]
    exact hcall.bind (((LeapOutcome.update _).bind (.exit _)).congr_leap
      (congrArg LeapSecondState.cleared hcall.leap))

/-- An event is applied if it is due at both readings of the clock; if it is due at the first, the
mutex is locked twice. -/
theorem leapSecondCheckAndApply_outcome (now : ℤ) (env : LeapApplyEnv) (d : Daemon) :
    LeapOutcome (leapSecondCheckAndApply now env d)
      (if d.leap.Due now ∧ d.leap.Due env.now then d.leap.cleared else d.leap)
      (if d.leap.Due now ∧ d.leap.Due env.now then [d.leap.pendingOffsetUs] else [])
      (if d.leap.Due now then [.acquire, .acquire, .release, .release]
        else [.acquire, .release]) := by
  have happly := leapSecondApplyCorrection_outcome d.leap.pendingLeapDir env d
  unfold leapSecondCheckAndApply
  by_cases hdue : d.leap.Due now
  · -- the callee takes the mutex that is held here
    have hcond : d.leap.eventScheduled = true ∧ now ≥ d.leap.eventTime := hdue
    simp only [hdue, true_and, if_true]
    refine .lock_bind (.read_bind ?_)
    have hcall := happly.bind (f := fun _ => do
      unlock .gLeapSecondMutex
      return (0 : ℤ)) ((LeapOutcome.exit 0).congr_leap happly.leap)
    rw [List.append_nil] at hcall
    rw [if_pos hcond]
    exact hcall
  · have hcond : ¬ (d.leap.eventScheduled = true ∧ now ≥ d.leap.eventTime) := hdue
    simp only [hdue, false_and, if_false]
    refine .lock_bind (.read_bind ?_)
    rw [if_neg hcond]
    exact .exit _

/-! ### Leap files -/

/-- What the file of the day announces, if it is there, can be read, and holds a direction. -/
def LeapFileEnv.announcement (env : LeapFileEnv) : Option UInt8 :=
  if env.stat.toBool ∧ env.fopen.toBool then
    env.leapDir.filter fun leapDir =>
      leapDir = leapSecondDirPositive ∨ leapDir = leapSecondDirNegative
  else none

/-- There is no file, or it announces something. -/
def LeapFileEnv.readable (env : LeapFileEnv) : Bool :=
  !env.stat.toBool || env.announcement.isSome

/-- The day has a file name. -/
def LeapFileEnv.named (env : LeapFileEnv) : Bool := env.year.any fun year => year ≤ 9999

/-- The event of the module after the file is read. -/
def LeapSecondState.fileRead (s : LeapSecondState) (env : LeapFileEnv) : LeapSecondState :=
  match env.announcement with
  | some leapDir => s.announced leapDir env.schedule
  | none => s

theorem announcement_read (now : ℤ) (year : Option ℤ) (leapDir : UInt8)
    (schedule : LeapScheduleEnv) :
    LeapFileEnv.announcement ⟨now, year, .ok (), .ok (), some leapDir, schedule⟩ =
      if leapDir = leapSecondDirPositive ∨ leapDir = leapSecondDirNegative then some leapDir
      else none := by
  simp [LeapFileEnv.announcement, Option.filter]

/-- A direction that was read is scheduled if it is one. -/
theorem scheduleRead_outcome (leapDir : UInt8) (env : LeapScheduleEnv) (d : Daemon) :
    LeapOutcome ((do
        if leapDir ≠ leapSecondDirPositive ∧ leapDir ≠ leapSecondDirNegative then return false
        else
          let _ ← leapSecondScheduleEvent leapDir env
          return true : DProc Bool) d)
      (if leapDir = leapSecondDirPositive ∨ leapDir = leapSecondDirNegative then
        d.leap.announced leapDir env else d.leap) []
      (if leapDir = leapSecondDirPositive ∨ leapDir = leapSecondDirNegative then
        [.acquire, .release] else []) := by
  -- only the two directions are scheduled
  have hschedule := leapSecondScheduleEvent_outcome leapDir env d
  by_cases hvalid : leapDir = leapSecondDirPositive ∨ leapDir = leapSecondDirNegative
  · have htest : ¬ (leapDir ≠ leapSecondDirPositive ∧ leapDir ≠ leapSecondDirNegative) :=
      fun h => hvalid.elim h.1 h.2
    rw [if_pos hvalid, if_pos hvalid, if_neg htest]
    exact hschedule.bind (f := fun _ => (return true : DProc Bool))
      ((LeapOutcome.pure true).congr_leap hschedule.leap)
  · have htest : leapDir ≠ leapSecondDirPositive ∧ leapDir ≠ leapSecondDirNegative :=
      not_or.mp hvalid
    rw [if_neg hvalid, if_neg hvalid, if_pos htest]
    exact .pure _

/-- Reading the file schedules what it announces, and locks the mutex for that. -/
theorem leapSecondReadFile_outcome (env : LeapFileEnv) (d : Daemon) :
    LeapOutcome (leapSecondReadFile env d) (d.leap.fileRead env) []
      (if env.announcement.isSome then [.acquire, .release] else []) := by
  obtain ⟨now, year, stat, fopen, leapDir, schedule⟩ := env
  unfold leapSecondReadFile LeapSecondState.fileRead
  -- without the file, or without a line in it, the state stays as it is
  cases stat with
  | error e => exact (sys_leapQuiet _).bind_outcome (.pure _)
  | ok =>
    refine (sys_leapQuiet _).bind_outcome ?_
    cases fopen with
    | error e => exact (sys_leapQuiet _).bind_outcome (.pure _)
    | ok =>
      refine (sys_leapQuiet _).bind_outcome ?_
      cases leapDir with
      | none => exact .pure _
      | some leapDir =>
        have hread := scheduleRead_outcome leapDir schedule d
        rw [announcement_read]
        -- a direction that is neither of the two is not scheduled
        by_cases hvalid : leapDir = leapSecondDirPositive ∨ leapDir = leapSecondDirNegative
        · rw [if_pos hvalid, if_pos hvalid] at hread
          rw [if_pos hvalid]
          exact hread
        · rw [if_neg hvalid, if_neg hvalid] at hread
          rw [if_neg hvalid]
          exact hread

theorem scheduleRead_ret (leapDir : UInt8) (env : LeapScheduleEnv) (d : Daemon) :
    ((do
        if leapDir ≠ leapSecondDirPositive ∧ leapDir ≠ leapSecondDirNegative then return false
        else
          let _ ← leapSecondScheduleEvent leapDir env
          return true : DProc Bool) d).ret =
      decide (leapDir = leapSecondDirPositive ∨ leapDir = leapSecondDirNegative) := by
  rw [ite_ret, bind_ret, pure_ret, pure_ret]
  split_ifs with htest
  · exact (decide_eq_false (not_or.mpr htest)).symm
  · exact (decide_eq_true (by tauto)).symm

theorem leapSecondReadFile_ret (env : LeapFileEnv) (d : Daemon) :
    (leapSecondReadFile env d).ret = env.readable := by
  obtain ⟨now, year, stat, fopen, leapDir, schedule⟩ := env
  unfold leapSecondReadFile LeapFileEnv.readable
  cases stat with
  | error e => rfl
  | ok =>
    cases fopen with
    | error e => rfl
    | ok =>
      cases leapDir with
      | none => rfl
      | some leapDir =>
        have hret := scheduleRead_ret leapDir schedule d
        rw [announcement_read]
        by_cases hvalid : leapDir = leapSecondDirPositive ∨ leapDir = leapSecondDirNegative
        · rw [if_pos hvalid]
          exact hret.trans (decide_eq_true hvalid)
        · rw [if_neg hvalid]
          exact hret.trans (decide_eq_false hvalid)

/-- The module is initialized, and it is time to look for a file whose name is known. -/
def LeapSecondState.Checks (s : LeapSecondState) (env : LeapFileEnv) : Prop :=
  s.initialized = true ∧ s.checkIntervalSec ≤ env.now - s.lastCheckTime ∧ env.named = true

instance (s : LeapSecondState) (env : LeapFileEnv) : Decidable (s.Checks env) := by
  unfold LeapSecondState.Checks
  infer_instance

/-- The state after a look for the file of the day. -/
def LeapSecondState.fileChecked (s : LeapSecondState) (env : LeapFileEnv) : LeapSecondState :=
  if s.Checks env ∧ env.readable = true then { s.fileRead env with lastCheckTime := env.now } else s

/-- The status of a look for the file of the day. -/
def LeapSecondState.fileStatus (s : LeapSecondState) (env : LeapFileEnv) : ℤ :=
  if s.initialized = false then -1
  else if env.now - s.lastCheckTime < s.checkIntervalSec then 0
  else if env.named = true ∧ env.readable = true then 0
  else -1

/-- A file that is not readable announces nothing. -/
theorem fileRead_of_not_readable (s : LeapSecondState) {env : LeapFileEnv}
    (h : env.readable = false) : s.fileRead env = s := by
  unfold LeapFileEnv.readable at h
  have hnone : env.announcement = none := by
    simpa using (Bool.or_eq_false_iff.mp h).2
  unfold LeapSecondState.fileRead
  rw [hnone]

theorem leapSecondGetFileName_ne_zero_iff (year : ℤ) :
    leapSecondGetFileName year ≠ 0 ↔ ¬ year ≤ 9999 := by
  unfold leapSecondGetFileName
  split_ifs with h
  · exact iff_of_true (by decide) (not_le.mpr h)
  · exact iff_of_false (not_not.mpr rfl) (not_not.mpr (not_lt.mp h))

/-- The file is read, and the time of the look noted. -/
theorem noteRead_outcome (env : LeapFileEnv) (d : Daemon) :
    LeapOutcome ((do
        let read ← leapSecondReadFile env
        if read then
          Proc.update fun d => { d with leap := { d.leap with lastCheckTime := env.now } }
          unlock .gLeapSecondMutex
          return 0
        else
          unlock .gLeapSecondMutex
          return -1 : DProc ℤ) d)
      (if env.readable = true then { d.leap.fileRead env with lastCheckTime := env.now }
        else d.leap)
      [] ((if env.announcement.isSome then [.acquire, .release] else []) ++ [.release]) := by
  have hread := leapSecondReadFile_outcome env d
  refine hread.bind ?_
  rw [leapSecondReadFile_ret]
  -- the time of the check is noted only if the file was read
  by_cases hreadable : env.readable = true
  · rw [if_pos hreadable, if_pos hreadable]
    exact ((LeapOutcome.update _).bind (.exit _)).congr_leap
      (congrArg (fun s => { s with lastCheckTime := env.now }) hread.leap)
  · rw [if_neg hreadable, if_neg hreadable]
    exact (LeapOutcome.exit _).congr_leap
      (hread.leap.trans (fileRead_of_not_readable d.leap (Bool.eq_false_iff.mpr hreadable)))

theorem noteRead_ret (env : LeapFileEnv) (d : Daemon) :
    ((do
        let read ← leapSecondReadFile env
        if read then
          Proc.update fun d => { d with leap := { d.leap with lastCheckTime := env.now } }
          unlock .gLeapSecondMutex
          return 0
        else
          unlock .gLeapSecondMutex
          return -1 : DProc ℤ) d).ret = if env.readable = true then 0 else -1 := by
  rw [bind_ret, leapSecondReadFile_ret, ite_ret]
  rfl

/-- A look that gets to the file. -/
theorem leapSecondCheckFile_of_checks {env : LeapFileEnv} {d : Daemon} (h : d.leap.Checks env) :
    LeapOutcome (leapSecondCheckFile env d)
      (if env.readable = true then { d.leap.fileRead env with lastCheckTime := env.now }
      else d.leap) []
      (.acquire :: ((if env.announcement.isSome then [.acquire, .release] else [])
        ++ [.release])) := by
  obtain ⟨hinit, hinterval, hnamed⟩ := h
  -- the three tests pass, and the file is read
  unfold leapSecondCheckFile
  refine .lock_bind (.read_bind ?_)
  rw [if_neg (by rw [hinit]; decide), if_neg (not_lt.mpr hinterval)]
  unfold LeapFileEnv.named at hnamed
  cases hyear : env.year with
  | none =>
    rw [hyear] at hnamed
    cases hnamed
  | some year =>
    rw [hyear] at hnamed
    have hname := (leapSecondGetFileName_ne_zero_iff year).not.mpr
      (not_not.mpr (of_decide_eq_true hnamed))
    dsimp only
    rw [if_neg hname]
    exact noteRead_outcome env d

/-- A look that ends before. -/
theorem leapSecondCheckFile_of_not_checks {env : LeapFileEnv} {d : Daemon}
    (h : ¬ d.leap.Checks env) :
    LeapOutcome (leapSecondCheckFile env d) d.leap [] [.acquire, .release] := by
  unfold leapSecondCheckFile
  refine .lock_bind (.read_bind ?_)
  -- the three returns before the file is looked for
  by_cases hinit : d.leap.initialized = true
  swap
  · rw [if_pos (by rw [Bool.eq_false_iff.mpr hinit]; rfl)]
    exact .exit _
  rw [if_neg (by rw [hinit]; decide)]
  by_cases hinterval : env.now - d.leap.lastCheckTime < d.leap.checkIntervalSec
  · rw [if_pos hinterval]
    exact .exit _
  rw [if_neg hinterval]
  cases hyear : env.year with
  | none => exact .exit _
  | some year =>
    -- the name has room for four digits of the year
    have hnamed : ¬ year ≤ 9999 := by
      intro hle
      have hnamed : env.named = true := by
        unfold LeapFileEnv.named
        rw [hyear]
        exact decide_eq_true hle
      exact h ⟨hinit, not_lt.mp hinterval, hnamed⟩
    dsimp only
    rw [if_pos ((leapSecondGetFileName_ne_zero_iff year).mpr hnamed)]
    exact .exit _

/-- A look for the file locks the mutex twice if the file announces something. -/
theorem leapSecondCheckFile_outcome (env : LeapFileEnv) (d : Daemon) :
    LeapOutcome (leapSecondCheckFile env d) (d.leap.fileChecked env) []
      (if d.leap.Checks env ∧ env.announcement.isSome = true then
        [.acquire, .acquire, .release, .release] else [.acquire, .release]) := by
  unfold LeapSecondState.fileChecked
  by_cases hchecks : d.leap.Checks env
  · have hops : (if env.announcement.isSome = true then
          [.acquire, .acquire, .release, .release] else [.acquire, .release]) =
        LockTrace.Op.acquire ::
          ((if env.announcement.isSome then [.acquire, .release] else []) ++ [.release]) := by
      cases env.announcement.isSome <;> rfl
    simp only [hchecks, true_and]
    rw [hops]
    exact leapSecondCheckFile_of_checks hchecks
  · simp only [hchecks, false_and, if_false]
    exact leapSecondCheckFile_of_not_checks hchecks

/-- A look for the file fails if the file's name or the file itself cannot be made out. -/
theorem leapSecondCheckFile_ret (env : LeapFileEnv) (d : Daemon) :
    (leapSecondCheckFile env d).ret = d.leap.fileStatus env := by
  have hinit : (!d.leap.initialized) = true ↔ d.leap.initialized = false := by
    cases d.leap.initialized <;> decide
  have hnote := noteRead_ret env d
  unfold leapSecondCheckFile LeapSecondState.fileStatus LeapFileEnv.named
  rw [bind_ret, bind_ret, ite_ret, ite_ret]
  -- the tests in the order of the function
  refine if_congr hinit rfl (if_congr Iff.rfl rfl ?_)
  cases env.year with
  | none => rfl
  | some year =>
    have hname := leapSecondGetFileName_ne_zero_iff year
    have hnamed : Option.any (fun year => decide (year ≤ 9999)) (some year) = true ↔ year ≤ 9999 :=
      decide_eq_true_iff
    dsimp only
    rw [ite_ret]
    by_cases hyear : year ≤ 9999
    · rw [if_neg (hname.not.mpr (not_not.mpr hyear))]
      exact hnote.trans (if_congr (and_iff_right (hnamed.mpr hyear)).symm rfl rfl)
    · rw [if_pos (hname.mpr hyear), if_neg fun h => hyear (hnamed.mp h.1)]
      rfl

/-! ### The mutex -/

/-- A call of the module. -/
inductive LeapCall
  | init
  | cleanup
  | checkFile (env : LeapFileEnv)
  | scheduleEvent (leapDir : UInt8) (env : LeapScheduleEnv)
  | applyCorrection (leapDir : UInt8) (env : LeapApplyEnv)
  | checkAndApply (now : ℤ) (env : LeapApplyEnv)

namespace LeapCall

def run : LeapCall → DProc ℤ
  | .init => leapSecondInit
  | .cleanup => leapSecondCleanup
  | .checkFile env => leapSecondCheckFile env
  | .scheduleEvent leapDir env => leapSecondScheduleEvent leapDir env
  | .applyCorrection leapDir env => leapSecondApplyCorrection leapDir env
  | .checkAndApply now env => leapSecondCheckAndApply now env

/-- The call gets as far as the call of another function of the module. -/
def Nests : LeapCall → LeapSecondState → Prop
  | .checkFile env, s => s.Checks env ∧ env.announcement.isSome = true
  | .checkAndApply now _, s => s.Due now
  | _, _ => False

/-- A call that the thread makes without the mutex keeps the discipline exactly if it does not get
as far as another function of the module. -/
theorem disciplined_iff_not_nests (c : LeapCall) (d : Daemon) :
    LockTrace.Disciplined (lockOps .gLeapSecondMutex (c.run d).trace) ↔ ¬ c.Nests d.leap := by
  cases c with
  | init => exact iff_of_true rfl id
  | cleanup => exact iff_of_true rfl id
  | scheduleEvent leapDir env =>
    rw [run, (leapSecondScheduleEvent_outcome leapDir env d).lockOps]
    exact iff_of_true rfl id
  | applyCorrection leapDir env =>
    rw [run, (leapSecondApplyCorrection_outcome leapDir env d).lockOps]
    exact iff_of_true rfl id
  -- these two call a function that takes the mutex itself
  | checkFile env =>
    rw [run, (leapSecondCheckFile_outcome env d).lockOps, Nests]
    split_ifs with hnests
    · exact iff_of_false nofun (not_not.mpr hnests)
    · exact iff_of_true rfl hnests
  | checkAndApply now env =>
    rw [run, (leapSecondCheckAndApply_outcome now env d).lockOps, Nests]
    split_ifs with hnests
    · exact iff_of_false nofun (not_not.mpr hnests)
    · exact iff_of_true rfl hnests

/-- A daemon with an initialized module. -/
def leapDaemon : Daemon := { Daemon.init with leap := LeapSecondState.init }

/-- On 31 December 2016 the file `/etc/ntpleap-20161231.s` is there and announces a leap second. -/
def announcingFile : LeapFileEnv where
  now := 1483185600
  year := some 2016
  stat := .ok ()
  fopen := .ok ()
  leapDir := some 1
  schedule := ⟨.ok (wholeSecond 1483185600), 1483185600⟩

/-- The file makes the thread lock the mutex it holds. -/
theorem announcingFile_not_disciplined :
    ¬ LockTrace.Disciplined (lockOps .gLeapSecondMutex
      ((checkFile announcingFile).run leapDaemon).trace) := by
  decide +kernel

end LeapCall

/-! ### The pending event -/

namespace LeapSecondState

/-- The three records of a pending event agree, and it is for the end of a minute. -/
structure Coherent (s : LeapSecondState) : Prop where
  dir : s.eventScheduled = false ↔ s.pendingLeapDir = 0
  offset : s.eventScheduled = false ↔ s.pendingOffsetUs = 0
  sign : s.eventScheduled = true → (0 < s.pendingOffsetUs ↔ s.pendingLeapDir = 1)
  minute : s.eventScheduled = true → 60 ∣ s.eventTime

/-- Nothing is pending. -/
structure Idle (s : LeapSecondState) : Prop where
  eventScheduled : s.eventScheduled = false
  pendingLeapDir : s.pendingLeapDir = 0
  pendingOffsetUs : s.pendingOffsetUs = 0

theorem Idle.coherent {s : LeapSecondState} (hs : s.Idle) : s.Coherent where
  dir := iff_of_true hs.eventScheduled hs.pendingLeapDir
  offset := iff_of_true hs.eventScheduled hs.pendingOffsetUs
  sign h := absurd (hs.eventScheduled.symm.trans h) Bool.false_ne_true
  minute h := absurd (hs.eventScheduled.symm.trans h) Bool.false_ne_true

theorem cleared_idle (s : LeapSecondState) : s.cleared.Idle := ⟨rfl, rfl, rfl⟩

/-- The interval is the one `leap_second_init` sets, or still zero. -/
def KnownInterval (s : LeapSecondState) : Prop := s.eventIntervalSec = 0 ∨ s.eventIntervalSec = 60

/-- The states have the same event, and the same interval for the next one. -/
structure SameEvent (s s' : LeapSecondState) : Prop where
  eventScheduled : s.eventScheduled = s'.eventScheduled
  pendingLeapDir : s.pendingLeapDir = s'.pendingLeapDir
  pendingOffsetUs : s.pendingOffsetUs = s'.pendingOffsetUs
  eventTime : s.eventTime = s'.eventTime
  eventIntervalSec : s.eventIntervalSec = s'.eventIntervalSec

theorem SameEvent.refl (s : LeapSecondState) : s.SameEvent s := ⟨rfl, rfl, rfl, rfl, rfl⟩

theorem Coherent.of_same {s s' : LeapSecondState} (hs : s.Coherent) (hsame : s'.SameEvent s) :
    s'.Coherent where
  dir := by rw [hsame.eventScheduled, hsame.pendingLeapDir]; exact hs.dir
  offset := by rw [hsame.eventScheduled, hsame.pendingOffsetUs]; exact hs.offset
  sign := by
    rw [hsame.eventScheduled, hsame.pendingLeapDir, hsame.pendingOffsetUs]
    exact hs.sign
  minute := by rw [hsame.eventScheduled, hsame.eventTime]; exact hs.minute

end LeapSecondState

/-- Both readings of the clock give the time `now`, which is not negative. -/
structure LeapScheduleEnv.Steady (env : LeapScheduleEnv) : Prop where
  nonneg : 0 ≤ env.now
  same : ∀ ts, env.endOfMinuteClock = .ok ts → ts.sec = env.now

/-- The end of the minute is later, by a minute at most. -/
theorem LeapScheduleEnv.Steady.endOfMinuteTime {env : LeapScheduleEnv} (henv : env.Steady)
    (heom : endOfMinuteTime env.endOfMinuteClock ≠ 0) :
    env.now < Dntpd.endOfMinuteTime env.endOfMinuteClock ∧
      Dntpd.endOfMinuteTime env.endOfMinuteClock ≤ env.now + 60 ∧
      60 ∣ Dntpd.endOfMinuteTime env.endOfMinuteClock := by
  have hnonneg := henv.nonneg
  cases hclock : env.endOfMinuteClock with
  | error e =>
    rw [hclock] at heom
    exact absurd rfl heom
  | ok ts =>
    have hsec := henv.same ts hclock
    have hmod : ts.sec.tmod 60 = ts.sec % 60 := Int.tmod_eq_emod_of_nonneg (by omega)
    unfold Dntpd.endOfMinuteTime
    dsimp only
    omega

/-- A new event is coherent, and comes within two minutes. -/
theorem LeapSecondState.schedule_coherent {s : LeapSecondState} (hs : s.KnownInterval)
    {leapDir : UInt8} (hdir : leapDir = 1 ∨ leapDir = 2) {endOfMinute now : ℤ}
    (hlater : now < endOfMinute) (hsoon : endOfMinute ≤ now + 60) (hminute : 60 ∣ endOfMinute) :
    (s.schedule leapDir endOfMinute now).Coherent ∧
      now < (s.schedule leapDir endOfMinute now).eventTime ∧
      (s.schedule leapDir endOfMinute now).eventTime ≤ now + 120 := by
  have htime : (s.schedule leapDir endOfMinute now).eventTime =
      if endOfMinute - s.eventIntervalSec ≤ now then endOfMinute + s.eventIntervalSec
      else endOfMinute - s.eventIntervalSec := rfl
  have hbounds : now < (s.schedule leapDir endOfMinute now).eventTime ∧
      (s.schedule leapDir endOfMinute now).eventTime ≤ now + 120 ∧
      60 ∣ (s.schedule leapDir endOfMinute now).eventTime := by
    rw [htime]
    -- the interval is 0 before `init` and 60 behind it
    rcases hs with hs | hs <;> rw [hs] <;> split_ifs <;> omega
  refine ⟨?_, hbounds.1, hbounds.2.1⟩
  rcases hdir with rfl | rfl
  · exact {
      dir := iff_of_false (fun h => Bool.false_ne_true h.symm) (by decide : (1 : UInt8) ≠ 0)
      offset := iff_of_false (fun h => Bool.false_ne_true h.symm) (by decide : (60000000 : ℤ) ≠ 0)
      sign := fun _ => iff_of_true (by decide : (0 : ℤ) < 60000000) rfl
      minute := fun _ => hbounds.2.2 }
  · exact {
      dir := iff_of_false (fun h => Bool.false_ne_true h.symm) (by decide : (2 : UInt8) ≠ 0)
      offset := iff_of_false (fun h => Bool.false_ne_true h.symm) (by decide : (-60000000 : ℤ) ≠ 0)
      sign := fun _ => iff_of_false (by decide : ¬ (0 : ℤ) < -60000000)
        (by decide : (2 : UInt8) ≠ 1)
      minute := fun _ => hbounds.2.2 }

/-! ### Runs of the module -/

/-- The daemon, and the time of the clock when the last event was stored. -/
structure LeapHistory where
  daemon : Daemon
  scheduledAt : ℤ

namespace LeapHistory

/-- The zero-initialised module. -/
def start (d : Daemon) : LeapHistory := ⟨{ d with leap := LeapSecondState.zero }, 0⟩

/-- The records agree, and a pending event is for a later time, by two minutes at most. -/
structure Consistent (h : LeapHistory) : Prop where
  coherent : h.daemon.leap.Coherent
  later : h.daemon.leap.eventScheduled = true → h.scheduledAt < h.daemon.leap.eventTime
  soon : h.daemon.leap.eventScheduled = true → h.daemon.leap.eventTime ≤ h.scheduledAt + 120

/-- What every call keeps. -/
structure Invariant (h : LeapHistory) : Prop extends Consistent h where
  interval : h.daemon.leap.KnownInterval

theorem Invariant.of_idle {h : LeapHistory} (hidle : h.daemon.leap.Idle)
    (hinterval : h.daemon.leap.KnownInterval) : h.Invariant where
  coherent := hidle.coherent
  later hs := absurd (hidle.eventScheduled.symm.trans hs) Bool.false_ne_true
  soon hs := absurd (hidle.eventScheduled.symm.trans hs) Bool.false_ne_true
  interval := hinterval

end LeapHistory

namespace LeapCall

/-- The time the call schedules at. -/
def scheduleTime : LeapCall → ℤ
  | .checkFile env => env.schedule.now
  | .scheduleEvent _ env => env.now
  | _ => 0

/-- The time at which the call applies a correction. -/
def applyTime : LeapCall → Option ℤ
  | .applyCorrection _ env => some env.now
  | .checkAndApply _ env => some env.now
  | _ => none

/-- The directions and the readings of the clock that a call may have. -/
def Admissible : LeapCall → Prop
  | .checkFile env => env.schedule.Steady
  | .scheduleEvent leapDir env => (leapDir = 1 ∨ leapDir = 2) ∧ env.Steady
  | _ => True

/-- The call, with the time at which it stores an event. -/
def after (c : LeapCall) (h : LeapHistory) : LeapHistory where
  daemon := (c.run h.daemon).state
  scheduledAt :=
    if h.daemon.leap.eventScheduled = false ∧ (c.run h.daemon).state.leap.eventScheduled = true then
      c.scheduleTime
    else h.scheduledAt

/-- After the call the records agree; a second schedule changes nothing; and a correction is asked
for only if the pending event is due, by its offset. -/
structure Consistent (c : LeapCall) (h : LeapHistory) : Prop where
  state : (c.after h).Consistent
  pending : ∀ leapDir env, c = .scheduleEvent leapDir env →
    h.daemon.leap.eventScheduled = true → (c.run h.daemon).state = h.daemon
  correction : ∀ offsetUs ∈ leapAttempts (c.run h.daemon).trace,
    offsetUs = h.daemon.leap.pendingOffsetUs ∧
      ∃ now, c.applyTime = some now ∧ h.daemon.leap.Due now

section

variable {c : LeapCall} {h : LeapHistory}

/-- A call that leaves the event alone. -/
theorem after_same (hinv : h.Invariant)
    (hsame : (c.run h.daemon).state.leap.SameEvent h.daemon.leap) : (c.after h).Invariant := by
  have hat : (c.after h).scheduledAt = h.scheduledAt := by
    -- no event is new
    refine if_neg fun hcond => ?_
    rw [hsame.eventScheduled, hcond.1] at hcond
    cases hcond.2
  have hscheduled : (c.after h).daemon.leap.eventScheduled = h.daemon.leap.eventScheduled :=
    hsame.eventScheduled
  have htime : (c.after h).daemon.leap.eventTime = h.daemon.leap.eventTime := hsame.eventTime
  have hinterval : (c.after h).daemon.leap.eventIntervalSec = h.daemon.leap.eventIntervalSec :=
    hsame.eventIntervalSec
  exact {
    coherent := hinv.coherent.of_same hsame
    later := by rw [hscheduled, htime, hat]; exact hinv.later
    soon := by rw [hscheduled, htime, hat]; exact hinv.soon
    interval := by
      unfold LeapSecondState.KnownInterval
      rw [hinterval]
      exact hinv.interval }

/-- A call that stores an event. -/
theorem after_schedule {leapDir : UInt8} (hdir : leapDir = 1 ∨ leapDir = 2) {endOfMinute : ℤ}
    (hlater : c.scheduleTime < endOfMinute) (hsoon : endOfMinute ≤ c.scheduleTime + 60)
    (hminute : 60 ∣ endOfMinute) (hinv : h.Invariant)
    (hidle : h.daemon.leap.eventScheduled = false)
    (hsame : (c.run h.daemon).state.leap.SameEvent
      (h.daemon.leap.schedule leapDir endOfMinute c.scheduleTime)) : (c.after h).Invariant := by
  -- the event that was scheduled lies within the next minute
  obtain ⟨hcoherent, hafter, hbefore⟩ :=
    LeapSecondState.schedule_coherent hinv.interval hdir hlater hsoon hminute
  have hat : (c.after h).scheduledAt = c.scheduleTime := if_pos ⟨hidle, hsame.eventScheduled⟩
  have htime : (c.after h).daemon.leap.eventTime =
      (h.daemon.leap.schedule leapDir endOfMinute c.scheduleTime).eventTime := hsame.eventTime
  have hinterval : (c.after h).daemon.leap.eventIntervalSec = h.daemon.leap.eventIntervalSec :=
    hsame.eventIntervalSec
  exact {
    coherent := hcoherent.of_same hsame
    later := fun _ => by rw [htime, hat]; exact hafter
    soon := fun _ => by rw [htime, hat]; exact hbefore
    interval := by
      unfold LeapSecondState.KnownInterval
      rw [hinterval]
      exact hinv.interval }

/-- A call that announces a leap second. -/
theorem after_announced {leapDir : UInt8} (hdir : leapDir = 1 ∨ leapDir = 2)
    {env : LeapScheduleEnv} (henv : env.Steady) (htime : c.scheduleTime = env.now)
    (hinv : h.Invariant) (hsame : (c.run h.daemon).state.leap.SameEvent
      (h.daemon.leap.announced leapDir env)) : (c.after h).Invariant := by
  unfold LeapSecondState.announced at hsame
  -- an event that is pending, or a clock that cannot be read, leaves everything as it is
  by_cases hnot : h.daemon.leap.eventScheduled = true ∨ endOfMinuteTime env.endOfMinuteClock = 0
  · rw [if_pos hnot] at hsame
    exact after_same hinv hsame
  · obtain ⟨hidle, heom⟩ := not_or.mp hnot
    obtain ⟨hlater, hsoon, hminute⟩ := henv.endOfMinuteTime heom
    rw [if_neg hnot, ← htime] at hsame
    rw [← htime] at hlater hsoon
    exact after_schedule hdir hlater hsoon hminute hinv (Bool.eq_false_iff.mpr hidle) hsame

/-- A call that clears the event. -/
theorem after_idle (hinv : h.Invariant) (hidle : (c.run h.daemon).state.leap.Idle)
    (hinterval : (c.run h.daemon).state.leap.eventIntervalSec = h.daemon.leap.eventIntervalSec) :
    (c.after h).Invariant := by
  refine .of_idle hidle ?_
  unfold LeapSecondState.KnownInterval
  rw [show (c.after h).daemon.leap.eventIntervalSec = _ from hinterval]
  exact hinv.interval

theorem announcement_valid {env : LeapFileEnv} {leapDir : UInt8}
    (h : env.announcement = some leapDir) : leapDir = 1 ∨ leapDir = 2 := by
  unfold LeapFileEnv.announcement at h
  split_ifs at h
  exact of_decide_eq_true (Option.filter_eq_some_iff.mp h).2

/-- Every call keeps the invariant. -/
theorem after_invariant (hc : c.Admissible) (hinv : h.Invariant) : (c.after h).Invariant := by
  cases c with
  | init => exact .of_idle ⟨rfl, rfl, rfl⟩ (.inr rfl)
  | cleanup => exact after_idle hinv ⟨rfl, rfl, rfl⟩ rfl
  | scheduleEvent leapDir env =>
    have hleap := (leapSecondScheduleEvent_outcome leapDir env h.daemon).leap
    exact after_announced hc.1 hc.2 rfl hinv (hleap ▸ .refl _)
  | checkFile env =>
    -- the file is not due, announces nothing, or announces a leap second
    have hleap := (leapSecondCheckFile_outcome env h.daemon).leap
    unfold LeapSecondState.fileChecked LeapSecondState.fileRead at hleap
    split_ifs at hleap with hchecks
    · cases hannounce : env.announcement with
      | none =>
        rw [hannounce] at hleap
        exact after_same hinv (by rw [run, hleap]; exact ⟨rfl, rfl, rfl, rfl, rfl⟩)
      | some leapDir =>
        rw [hannounce] at hleap
        exact after_announced (announcement_valid hannounce) hc rfl hinv
          (by rw [run, hleap]; exact ⟨rfl, rfl, rfl, rfl, rfl⟩)
    · exact after_same hinv (hleap ▸ .refl _)
  | applyCorrection leapDir env =>
    have hleap := (leapSecondApplyCorrection_outcome leapDir env h.daemon).leap
    split_ifs at hleap
    · exact after_idle hinv (by rw [run, hleap]; exact LeapSecondState.cleared_idle _)
        (by rw [run, hleap]; rfl)
    · exact after_same hinv (hleap ▸ .refl _)
  | checkAndApply now env =>
    have hleap := (leapSecondCheckAndApply_outcome now env h.daemon).leap
    split_ifs at hleap
    · exact after_idle hinv (by rw [run, hleap]; exact LeapSecondState.cleared_idle _)
        (by rw [run, hleap]; rfl)
    · exact after_same hinv (hleap ▸ .refl _)

/-- A correction is asked for only if the event is due, by its offset. -/
theorem correction_due (c : LeapCall) (d : Daemon) : ∀ offsetUs ∈ leapAttempts (c.run d).trace,
    offsetUs = d.leap.pendingOffsetUs ∧ ∃ now, c.applyTime = some now ∧ d.leap.Due now := by
  intro offsetUs hmem
  cases c with
  | init => exact absurd hmem List.not_mem_nil
  | cleanup => exact absurd hmem List.not_mem_nil
  | scheduleEvent leapDir env =>
    rw [run, (leapSecondScheduleEvent_outcome leapDir env d).attempts] at hmem
    exact absurd hmem List.not_mem_nil
  | checkFile env =>
    rw [run, (leapSecondCheckFile_outcome env d).attempts] at hmem
    exact absurd hmem List.not_mem_nil
  -- only the last two correct the clock, and both when the event is due
  | applyCorrection leapDir env =>
    rw [run, (leapSecondApplyCorrection_outcome leapDir env d).attempts] at hmem
    split_ifs at hmem with hdue
    · exact ⟨List.mem_singleton.mp hmem, env.now, rfl, hdue⟩
    · exact absurd hmem List.not_mem_nil
  | checkAndApply now env =>
    rw [run, (leapSecondCheckAndApply_outcome now env d).attempts] at hmem
    split_ifs at hmem with hdue
    · exact ⟨List.mem_singleton.mp hmem, env.now, rfl, hdue.2⟩
    · exact absurd hmem List.not_mem_nil

/-- While an event is pending another one is refused. -/
theorem scheduleEvent_pending (leapDir : UInt8) (env : LeapScheduleEnv) {d : Daemon}
    (hpending : d.leap.eventScheduled = true) : ((scheduleEvent leapDir env).run d).state = d := by
  unfold run leapSecondScheduleEvent lock unlock
  simp [hpending]

end

/-- Along every run of the module from the zero state its records agree, a pending event is in place
for the end of a minute within two minutes, and a correction waits for it. -/
theorem leapModule_consistent {calls : List LeapCall} (hcalls : ∀ c ∈ calls, c.Admissible)
    (d : Daemon) :
    (LeapHistory.start d).Consistent ∧ Run.Along after Consistent calls (LeapHistory.start d) := by
  have hstart : (LeapHistory.start d).Invariant := .of_idle ⟨rfl, rfl, rfl⟩ (.inl rfl)
  have hadmissible : Run.Along after (fun c _ => c.Admissible) calls (LeapHistory.start d) :=
    Run.along_of_forall_mem fun c hc _ => hcalls c hc
  have hinv := (Run.Along.invariant (I := LeapHistory.Invariant)
    (fun _ _ hinv hc => after_invariant hc hinv) hstart hadmissible).1
  refine ⟨hstart.toConsistent, (hadmissible.and hinv).mono fun c h hstep => ?_⟩
  exact {
    state := (after_invariant hstep.1 hstep.2).toConsistent
    pending := fun leapDir env hc hpending => hc ▸ scheduleEvent_pending leapDir env hpending
    correction := correction_due c h.daemon }

/-- A leap second announced at midnight, and looked for after two minutes. -/
def midnightCalls : List LeapCall :=
  [.init, .scheduleEvent 1 announcingFile.schedule,
    .checkAndApply 1483185720 ⟨1483185720, ⟨.ok (wholeSecond 1483185720), .ok (), .ok ()⟩⟩]

theorem midnightCalls_consistent :
    Run.Along after Consistent midnightCalls (LeapHistory.start Daemon.init) := by
  refine (leapModule_consistent (fun c hc => ?_) Daemon.init).2
  rcases List.mem_cons.mp hc with rfl | hc
  · trivial
  rcases List.mem_pair.mp hc with rfl | rfl
  · refine ⟨.inl rfl, by decide, fun ts hts => ?_⟩
    obtain rfl := Except.ok.inj hts
    rfl
  · trivial

end LeapCall

end Dntpd

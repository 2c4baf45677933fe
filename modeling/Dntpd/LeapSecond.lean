import Dntpd.TimeCorrection

/-!
# Leap seconds (`leap_second.c`, and `handle_leap_indicator` of `ntp_algorithms.c`)

The module's mutex is taken by every function, also by those that call one another.  The path
strings only name the file that `stat` and `fopen` are asked for; the model keeps the answers.
-/

namespace Dntpd

/-! ### Initialization and cleanup -/

def leapSecondCheckIntervalSec : ℤ := 300
def leapSecondEventIntervalSec : ℤ := 60

/-- The state `leap_second_init` writes. -/
def LeapSecondState.init : LeapSecondState where
  initialized := true
  lastCheckTime := 0
  nextCheckTime := 0
  pendingOffsetUs := 0
  pendingLeapDir := 0
  eventScheduled := false
  eventTime := 0
  checkIntervalSec := leapSecondCheckIntervalSec
  eventIntervalSec := leapSecondEventIntervalSec

/-- `leap_second_init`. -/
def leapSecondInit : DProc ℤ := do
  lock .gLeapSecondMutex
  Proc.update fun d => { d with leap := LeapSecondState.init }
  unlock .gLeapSecondMutex
  return 0

/-- `leap_second_cleanup`; the intervals stay. -/
def leapSecondCleanup : DProc ℤ := do
  lock .gLeapSecondMutex
  Proc.update fun d => { d with leap := { d.leap with
    initialized := false
    lastCheckTime := 0
    nextCheckTime := 0
    pendingOffsetUs := 0
    pendingLeapDir := 0
    eventScheduled := false
    eventTime := 0 } }
  unlock .gLeapSecondMutex
  return 0

/-! ### Scheduling -/

/-- What the clock answers while an event is scheduled. -/
structure LeapScheduleEnv where
  endOfMinuteClock : Except Errno Timespec
  now : ℤ

/-- `leap_second_get_end_of_minute_time`. -/
def leapSecondGetEndOfMinuteTime (clock : Except Errno Timespec) : DProc ℤ := do
  match ← sys clock with
  | .error _ => return 0
  | .ok ts => return ts.sec + (60 - ts.sec.tmod 60)

/-- The state `leap_second_schedule_event` stores. -/
def LeapSecondState.schedule (s : LeapSecondState) (leapDir : UInt8) (endOfMinute now : ℤ) :
    LeapSecondState :=
  let eventTime := endOfMinute - s.eventIntervalSec
  { s with
    pendingOffsetUs := if leapDir = leapSecondDirPositive then 60000000 else -60000000
    pendingLeapDir := leapDir
    eventTime := if eventTime ≤ now then endOfMinute + s.eventIntervalSec else eventTime
    eventScheduled := true }

/-- `leap_second_schedule_event`. -/
def leapSecondScheduleEvent (leapDir : UInt8) (env : LeapScheduleEnv) : DProc ℤ := do
  lock .gLeapSecondMutex
  let d ← Proc.read
  if d.leap.eventScheduled then
    unlock .gLeapSecondMutex
    return -1
  else
    let endOfMinute ← leapSecondGetEndOfMinuteTime env.endOfMinuteClock
    if endOfMinute = 0 then
      unlock .gLeapSecondMutex
      return -1
    else
      Proc.update fun d => { d with leap := d.leap.schedule leapDir endOfMinute env.now }
      unlock .gLeapSecondMutex
      return 0

/-- `handle_leap_indicator`: whether the packet is to be skipped. -/
def handleLeapIndicator (li : UInt8) (env : LeapScheduleEnv) : DProc Bool := do
  if li = 0 then return false
  else if li = 1 then
    let _ ← leapSecondScheduleEvent leapSecondDirPositive env
    return false
  else if li = 2 then
    let _ ← leapSecondScheduleEvent leapSecondDirNegative env
    return false
  else return true

/-! ### Applying -/

/-- What the outside answers while a correction is applied. -/
structure LeapApplyEnv where
  now : ℤ
  correction : CorrectionEnv

/-- `leap_second_apply_correction`; its argument is not used. -/
def leapSecondApplyCorrection (_leapDir : UInt8) (env : LeapApplyEnv) : DProc ℤ := do
  lock .gLeapSecondMutex
  let d ← Proc.read
  if !d.leap.eventScheduled then
    unlock .gLeapSecondMutex
    return -1
  else if env.now < d.leap.eventTime then
    unlock .gLeapSecondMutex
    return -1
  else
    let result ← applyTimeCorrectionSlewOrStep .leapSecondApplyCorrection d.leap.pendingOffsetUs
      env.correction
    Proc.update fun d => { d with
      leap := { d.leap with pendingOffsetUs := 0, pendingLeapDir := 0, eventScheduled := false } }
    unlock .gLeapSecondMutex
    return result

/-- `leap_second_check_and_apply` at the time `now`. -/
def leapSecondCheckAndApply (now : ℤ) (env : LeapApplyEnv) : DProc ℤ := do
  lock .gLeapSecondMutex
  let d ← Proc.read
  if d.leap.eventScheduled ∧ now ≥ d.leap.eventTime then
    -- the callee takes the mutex that is held here
    let _ ← leapSecondApplyCorrection d.leap.pendingLeapDir env
    unlock .gLeapSecondMutex
    return 0
  else
    unlock .gLeapSecondMutex
    return 0

/-! ### Leap files -/

/-- What the outside answers while the leap file of the day is looked for: the time, the year
`localtime` gives, the outcomes of `stat` and `fopen`, and the number `fscanf` reads. -/
structure LeapFileEnv where
  now : ℤ
  year : Option ℤ
  stat : Except Errno Unit
  fopen : Except Errno Unit
  leapDir : Option UInt8
  schedule : LeapScheduleEnv

/-- `leap_second_get_file_name` fails for a year of more than four digits. -/
def leapSecondGetFileName (year : ℤ) : ℤ := if year > 9999 then -1 else 0

/-- The middle of `leap_second_check_file`: read the file if there is one, and schedule its event;
false on the error exits. -/
def leapSecondReadFile (env : LeapFileEnv) : DProc Bool := do
  match ← sys env.stat with
  | .error _ => return true
  | .ok _ =>
    match ← sys env.fopen with
    | .error _ => return false
    | .ok _ =>
      match env.leapDir with
      | none => return false
      | some leapDir =>
        if leapDir ≠ leapSecondDirPositive ∧ leapDir ≠ leapSecondDirNegative then return false
        else
          let _ ← leapSecondScheduleEvent leapDir env.schedule
          return true

/-- `leap_second_check_file`. -/
def leapSecondCheckFile (env : LeapFileEnv) : DProc ℤ := do
  lock .gLeapSecondMutex
  let d ← Proc.read
  if !d.leap.initialized then
    unlock .gLeapSecondMutex
    return -1
  else if env.now - d.leap.lastCheckTime < d.leap.checkIntervalSec then
    unlock .gLeapSecondMutex
    return 0
  else
    match env.year with
    | none =>
      unlock .gLeapSecondMutex
      return -1
    | some year =>
      if leapSecondGetFileName year ≠ 0 then
        unlock .gLeapSecondMutex
        return -1
      else
        let read ← leapSecondReadFile env
        if read then
          Proc.update fun d => { d with leap := { d.leap with lastCheckTime := env.now } }
          unlock .gLeapSecondMutex
          return 0
        else
          unlock .gLeapSecondMutex
          return -1

/-! ### After a synchronisation -/

/-- What the outside answers during `leap_second_integration_check`. -/
structure LeapCheckEnv where
  file : LeapFileEnv
  now : ℤ
  apply : LeapApplyEnv

/-- `leap_second_integration_check` of `time_sync.c`. -/
def leapSecondIntegrationCheck (env : LeapCheckEnv) : DProc ℤ := do
  let file ← leapSecondCheckFile env.file
  if file ≠ 0 then return -1
  else
    let applied ← leapSecondCheckAndApply env.now env.apply
    return if applied ≠ 0 then -1 else 0

end Dntpd

import Dntpd.ModeHandler
import Dntpd.NtpAlgorithms

/-!
# Setting the clock (`time_sync.c`)

The clock reading behind every timestamp, and `apply_time_correction_slew_or_step`.
-/

namespace Dntpd

open CInt

/-- `ntp_timestamp_now`, for a clock that answers `clock`. -/
def readTimestampNow (clock : Except Errno Timespec) : DProc NtpTimestamp := do
  let r ← sys clock
  return ntpTimestampNow r

/-- The status of a call: 0, or -1 when it failed. -/
def callStatus {α : Type} (r : Except Errno α) : ℤ :=
  match r with
  | .ok _ => 0
  | .error _ => -1

@[simp] theorem callStatus_ok {α : Type} (a : α) :
    callStatus (.ok a : Except Errno α) = 0 := rfl

@[simp] theorem callStatus_error {α : Type} (e : Errno) :
    callStatus (.error e : Except Errno α) = -1 := rfl

/-- What the kernel answers while a correction is applied. -/
structure CorrectionEnv where
  clock : Except Errno Timespec
  settime : Except Errno Unit
  adjtime : Except Errno Unit

/-- Whole units and remainder of `v`, the remainder made nonnegative by a borrow. -/
def splitUnits (v unit : ℤ) : ℤ × ℤ :=
  let sec := v.tdiv unit
  let rest := v.tmod unit
  if rest < 0 then (sec - 1, rest + unit) else (sec, rest)

/-- The step branch of `apply_time_correction_slew_or_step`. -/
def stepClock (offsetUs : ℤ) (env : CorrectionEnv) : DProc ℤ := do
  match ← sys env.clock with
  | .error _ => return -1
  | .ok now =>
    let offsetNs := int64 (offsetUs * 1000)
    let ns := int64 (int64 (now.sec * 1000000000) + now.nsec)
    if offsetNs > 0 ∧ ns > int64Max - offsetNs then return -1
    else if offsetNs < 0 ∧ ns < int64Min - offsetNs then return -1
    else
      let new := splitUnits (int64 (ns + offsetNs)) 1000000000
      let r ← sys env.settime
      Proc.emit (.clockSettime new.1 new.2 r.toBool)
      return callStatus r

/-- The slew branch. -/
def slewClock (offsetUs : ℤ) (env : CorrectionEnv) : DProc ℤ := do
  let delta := splitUnits offsetUs 1000000
  let r ← sys env.adjtime
  Proc.emit (.adjtime delta.1 delta.2 r.toBool)
  return callStatus r

/-- `apply_time_correction_slew_or_step`, called by `caller`. -/
def applyTimeCorrectionSlewOrStep (caller : CorrectionCaller) (offsetUs : ℤ)
    (env : CorrectionEnv) : DProc ℤ := do
  Proc.emit (.applyTimeCorrectionSlewOrStep caller offsetUs)
  let panic ← checkPanicCondition offsetUs
  if panic then return -1
  else if offsetUs > stepThresholdUs ∨ offsetUs < -stepThresholdUs then stepClock offsetUs env
  else slewClock offsetUs env

end Dntpd

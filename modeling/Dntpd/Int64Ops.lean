import Dntpd.Library.Int64Trace
import Dntpd.TimeCorrection

/-!
# The 64-bit arithmetic of delays and corrections (`ntp_algorithms.c`, `time_sync.c`)

`calculate_delay_offset` and `apply_time_correction_slew_or_step` once more, with the functions they
call, as procedures whose trace has their signed 64-bit operations; `Spec.Int64Ops` shows that
without the trace they are the functions of the model.  Divisions of constants are left out, as are
the events of a correction, which `TimeCorrection` has.
-/

namespace Dntpd

open CInt Int64Trace

namespace Int64Ops

/-! ### ntp_algorithms.c -/

/-- `ntp_timestamp_to_ns` -/
def ntpTimestampToNs {σ : Type} (t : NtpTimestamp) : Proc σ Int64Op ℤ := do
  let sec ← op ((t.sec.toNat : ℤ) - ntpUnixEpochDelta)
  if sec > int64Max.tdiv nsPerSec - 1 then clamp int64Max
  else if sec < int64Min.tdiv nsPerSec + 1 then clamp int64Min
  else
    let nsec := (t.frac.toUInt64 * 1000000000) >>> 32
    let secNs ← op (sec * nsPerSec)
    op (secNs + (nsec.toNat : ℤ))

/-- What `delay_us` and `offset_us` point to. -/
structure DelayOffset where
  delayUs : UInt64
  offsetUs : ℤ

/-- `calculate_delay_offset`, which writes its outputs. -/
def calculateDelayOffset (t1 t2 t3 t4 : NtpTimestamp) : Proc DelayOffset Int64Op Bool := do
  let T1 ← ntpTimestampToNs t1
  let T2 ← ntpTimestampToNs t2
  let T3 ← ntpTimestampToNs t3
  let T4 ← ntpTimestampToNs t4
  let roundTrip ← op (T4 - T1)
  let processing ← op (T3 - T2)
  let delayNs ← op (roundTrip - processing)
  let there ← op (T2 - T1)
  let back ← op (T3 - T4)
  let sum ← op (there + back)
  let offsetNs ← op (sum.tdiv 2)
  if delayNs < 0 then return false
  else
    let delayUs ← op (delayNs.tdiv 1000)
    Proc.update fun s => { s with delayUs := UInt64.ofNat delayUs.toNat }
    let offsetUs ← op (offsetNs.tdiv 1000)
    Proc.update fun s => { s with offsetUs := offsetUs }
    return true

/-! ### time_sync.c -/

/-- A call whose outcome is `r`. -/
def call {α : Type} (r : Except Errno α) : Proc Daemon Int64Op (Except Errno α) := do
  match r with
  | .ok _ => pure r
  | .error e =>
    Proc.update fun d => { d with errno := e.val }
    pure r

/-- `check_panic_condition` -/
def checkPanicCondition (timeOffset : ℤ) : Proc Daemon Int64Op Bool := do
  if timeOffset = 0 then return false
  else
    let d ← Proc.read
    let timeOffset ← if timeOffset < 0 then op (-timeOffset) else pure timeOffset
    let limit ← op (d.mode.config.panicThreshold.toNat * 1000000000)
    return timeOffset > limit

/-- `offset_ns > 0 && ns > INT64_MAX - offset_ns` -/
def sumTooLarge (ns offsetNs : ℤ) : Proc Daemon Int64Op Bool := do
  if offsetNs > 0 then
    let room ← op (int64Max - offsetNs)
    return ns > room
  else return false

/-- `offset_ns < 0 && ns < INT64_MIN - offset_ns` -/
def sumTooSmall (ns offsetNs : ℤ) : Proc Daemon Int64Op Bool := do
  if offsetNs < 0 then
    let room ← op (int64Min - offsetNs)
    return ns < room
  else return false

/-- Whole units and remainder, with the borrow. -/
def splitUnits (v unit : ℤ) : Proc Daemon Int64Op (ℤ × ℤ) := do
  let sec ← op (v.tdiv unit)
  let rest ← op (v.tmod unit)
  if rest < 0 then
    let rest ← op (rest + unit)
    let sec ← op (sec - 1)
    return (sec, rest)
  else return (sec, rest)

/-- The step branch of `apply_time_correction_slew_or_step`. -/
def stepClock (offsetUs : ℤ) (env : CorrectionEnv) : Proc Daemon Int64Op ℤ := do
  match ← call env.clock with
  | .error _ => return -1
  | .ok now =>
    let offsetNs ← op (offsetUs * 1000)
    let secNs ← op (now.sec * 1000000000)
    let ns ← op (secNs + now.nsec)
    let large ← sumTooLarge ns offsetNs
    if large then return -1
    else
      let small ← sumTooSmall ns offsetNs
      if small then return -1
      else
        let ns ← op (ns + offsetNs)
        let _ ← splitUnits ns 1000000000
        let r ← call env.settime
        return callStatus r

/-- The slew branch. -/
def slewClock (offsetUs : ℤ) (env : CorrectionEnv) : Proc Daemon Int64Op ℤ := do
  let _ ← splitUnits offsetUs 1000000
  let r ← call env.adjtime
  return callStatus r

/-- `apply_time_correction_slew_or_step` -/
def applyTimeCorrectionSlewOrStep (offsetUs : ℤ) (env : CorrectionEnv) :
    Proc Daemon Int64Op ℤ := do
  let panic ← checkPanicCondition offsetUs
  if panic then
    -- in the message
    let _ ← op (offsetUs.tdiv 1000)
    return -1
  else if offsetUs > stepThresholdUs ∨ offsetUs < -stepThresholdUs then stepClock offsetUs env
  else slewClock offsetUs env

end Int64Ops

end Dntpd

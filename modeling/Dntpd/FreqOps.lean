import Dntpd.FreqDiscipline

/-!
# What the frequency discipline divides by, and what it applies (`time_sync.c`)

`update_frequency_discipline_internal` once more, as a procedure on `g_freq_state` whose trace has
the divisor of every division and the frequency of every call of `apply_freq_adjtimex` and
`apply_freq_adjtime`; `Spec.FreqDiscipline` shows that without the trace this is the procedure of
`FreqDiscipline`.  The discipline does not read `g_clock_accuracy`: of the functions that update it
only the divisions are kept.
-/

namespace Dntpd

/-- A division, or a call that hands a frequency on. -/
inductive FreqOp
  | div (divisor : ℚ)
  | applyFreqAdjtimex (ppm : ℚ)
  | applyFreqAdjtime (ppm : ℚ)
  deriving DecidableEq

/-- A procedure of the discipline. -/
abbrev FreqProc (α : Type) := Proc FreqState FreqOp α

namespace FreqOps

/-- `a / b` -/
def quotient (a b : ℚ) : FreqProc ℚ := do
  Proc.emit (.div b)
  return a / b

/-! ### Calculation -/

/-- `calculate_fll_ppm` -/
def calculateFllPpm (offsetUs deltaSec pollExp : ℤ) : FreqProc ℚ := do
  if deltaSec ≤ 0 then return 0
  else
    let etemp := maxpoll + 1 - pollExp
    let etemp := if etemp < 4 then 4 else etemp
    let offsetS ← quotient offsetUs 1000000
    let denom : ℚ := max (deltaSec : ℚ) clockAllanIntercept * etemp
    if denom ≤ 0 then return 0
    else
      let ppm ← quotient offsetS denom
      return clampFrequency ppm

/-- `calculate_pll_ppm` -/
def calculatePllPpm (offsetUs deltaSec pollExp : ℤ) : FreqProc ℚ := do
  if deltaSec ≤ 0 then return 0
  else
    let pollInterval := pollSeconds pollExp
    let etemp := if deltaSec < pollInterval then deltaSec else pollInterval
    let dtemp : ℚ := 4 * 65536 * pollInterval * pollInterval
    if dtemp ≤ 0 then return 0
    else
      let offsetS ← quotient offsetUs 1000000
      let ppm ← quotient (offsetS * etemp) dtemp
      return clampFrequency ppm

/-! ### Clock accuracy -/

/-- `calculate_clock_precision`, which reads the clock as `clock`. -/
def calculateClockPrecision (clock : Timespec) : FreqProc Unit := do
  let _ ← quotient clock.nsec 1000000000
  return ()

/-- `calculate_allan_variance` -/
def calculateAllanVariance (offsetUs deltaSec : ℤ) : FreqProc Unit := do
  if deltaSec ≤ 0 then return ()
  else
    let freqOffset ← quotient offsetUs 1000000
    let _ ← quotient freqOffset deltaSec
    return ()

/-- `update_clock_accuracy`; the index of its history is reduced modulo 16. -/
def updateClockAccuracy (offsetUs deltaSec : ℤ) (clock : Timespec) : FreqProc Unit := do
  calculateClockPrecision clock
  calculateAllanVariance offsetUs deltaSec
  Proc.emit (.div 16)

/-! ### Adjustment -/

/-- `apply_freq_adjtime` -/
def applyFreqAdjtime (ppm : ℚ) (env : FreqEnv) : FreqProc ℤ := do
  Proc.emit (.applyFreqAdjtime ppm)
  let _ ← quotient ppm 1000000
  return callStatus env.adjtime

/-- `apply_freq_adjtimex` -/
def applyFreqAdjtimex (ppm : ℚ) (env : FreqEnv) : FreqProc ℤ := do
  Proc.emit (.applyFreqAdjtimex ppm)
  match env.adjtimex with
  | .error _ => return -1
  | .ok answer => return if answer.status &&& 0x0040 ≠ 0 then -1 else answer.ret

/-- `apply_frequency_adjustment` -/
def applyFrequencyAdjustment (ppm : ℚ) (env : FreqEnv) : FreqProc ℤ := do
  let clamped := clampFrequency ppm
  if |clamped| < 1 / 1000 then return 0
  else
    let r ← applyFreqAdjtimex clamped env
    if r = 0 then
      Proc.update fun s => { s with ppm := clamped }
      return 0
    else applyFreqAdjtime clamped env

/-! ### The state machine -/

/-- The frequency of `FREQ_STATE_SYNC`. -/
def calculateSyncPpm (offsetUs delta pollExp : ℤ) : FreqProc ℚ :=
  if pollExp ≥ 11 then calculateFllPpm offsetUs clockAllanIntercept pollExp
  else calculatePllPpm offsetUs delta pollExp

/-- The branch of `update_frequency_discipline_internal` for the state it finds, `delta` seconds
after the last call. -/
def transition (offsetUs pollExp : ℤ) (jitterUs : UInt64) (delta : ℤ) (clock : Timespec)
    (s : FreqState) : FreqProc Unit := do
  match s.state with
  | .nset =>
    let newPpmCalc ← calculateFllPpm offsetUs delta pollExp
    Proc.update fun s => { s with ppm := newPpmCalc, state := .fset }
  | .fset =>
    let newPpmCalc ← calculateFllPpm offsetUs delta pollExp
    let step ← quotient (newPpmCalc - s.ppm) (2 ^ clockFllgain)
    Proc.update fun s => { s with ppm := s.ppm + step, state := .sync }
  | .sync | .recover =>
    updateClockAccuracy offsetUs delta clock
    let newPpmCalc ← calculateSyncPpm offsetUs delta pollExp
    Proc.update fun s =>
      let s := s.updateDynamicGain jitterUs
      let filtered := applyLoopFilter newPpmCalc s.ppmFilter pllAlpha
      { s with ppmFilter := filtered, ppm := filtered }

/-- The state machine: the branch is taken when the period has passed. -/
def discipline (offsetUs pollExp : ℤ) (jitterUs : UInt64) (now : ℤ) (clock : Timespec) :
    FreqProc Unit := do
  let s ← Proc.read
  let tc := pollSeconds pollExp
  let tc := if tc < freqUpdateIntervalMinSec then freqUpdateIntervalMinSec else tc
  let delta := now - s.lastUpdate
  if delta ≥ tc then transition offsetUs pollExp jitterUs delta clock s else return ()

/-- `update_frequency_discipline_internal` -/
def updateFrequencyDisciplineInternal (offsetUs pollExp : ℤ) (jitterUs : UInt64) (clock : Timespec)
    (env : FreqEnv) : FreqProc ℤ := do
  discipline offsetUs pollExp jitterUs env.now clock
  Proc.update fun s => { s with lastUpdate := env.now, lastOffsetUs := offsetUs }
  let s ← Proc.read
  applyFrequencyAdjustment s.ppm env

end FreqOps

end Dntpd

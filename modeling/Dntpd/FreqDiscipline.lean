import Mathlib.Algebra.Order.Ring.Rat
import Dntpd.Filter
import Dntpd.TimeCorrection

/-!
# The frequency discipline of `time_sync.c`, on `g_freq_state`

`double` is read as an exact rational.  A shift count is reduced modulo 64, as the shift
instruction of the target does.
-/

namespace Dntpd

/-! ### Constants -/

def clockFllgain : ℕ := 4
def clockAllanIntercept : ℤ := 1500
def freqUpdateIntervalMinSec : ℤ := 64
def freqOffsetMaxPpm : ℚ := 128
def pllAlpha : ℚ := 1 / 100
def freqDeadbandPpm : ℚ := 1 / 1000
def fllHighGain : ℚ := 1 / 2
def fllLowGain : ℚ := 1 / 10
def pllHighGain : ℚ := 1 / 10
def pllNominalGain : ℚ := 1 / 100
def pllLowGain : ℚ := 1 / 1000
def jitterHighThresholdUs : UInt64 := 200000
def jitterLowThresholdUs : UInt64 := 50000
def maxpoll : ℤ := 17

/-! ### Calculation -/

/-- `clamp_frequency`. -/
def clampFrequency (ppm : ℚ) : ℚ :=
  if ppm > freqOffsetMaxPpm then freqOffsetMaxPpm
  else if ppm < -freqOffsetMaxPpm then -freqOffsetMaxPpm
  else ppm

/-- `1LL << poll_exp`. -/
def pollSeconds (pollExp : ℤ) : ℤ := CInt.int64 (2 ^ (pollExp % 64).toNat)

/-- `calculate_fll_ppm`. -/
def calculateFllPpm (offsetUs deltaSec pollExp : ℤ) : ℚ :=
  if deltaSec ≤ 0 then 0
  else
    let etemp := maxpoll + 1 - pollExp
    let etemp := if etemp < 4 then 4 else etemp
    let denom : ℚ := max (deltaSec : ℚ) clockAllanIntercept * etemp
    if denom ≤ 0 then 0 else clampFrequency ((offsetUs : ℚ) / 1000000 / denom)

/-- `calculate_pll_ppm`. -/
def calculatePllPpm (offsetUs deltaSec pollExp : ℤ) : ℚ :=
  if deltaSec ≤ 0 then 0
  else
    let pollInterval := pollSeconds pollExp
    let etemp := if deltaSec < pollInterval then deltaSec else pollInterval
    let dtemp : ℚ := 4 * 65536 * pollInterval * pollInterval
    if dtemp ≤ 0 then 0 else clampFrequency ((offsetUs : ℚ) / 1000000 * etemp / dtemp)

/-- What `calculate_frequency_ppm` clamps. -/
def frequencyPpm (offsetUs deltaSec : ℤ) : ℚ := (offsetUs : ℚ) / 1000000 / deltaSec * 1000000

/-- `calculate_frequency_ppm`. -/
def calculateFrequencyPpm (offsetUs deltaSec : ℤ) : ℚ :=
  if deltaSec ≤ 0 then 0 else clampFrequency (frequencyPpm offsetUs deltaSec)

/-- `apply_loop_filter`: the value it returns and stores through its pointer. -/
def applyLoopFilter (newPpm filterPpm alpha : ℚ) : ℚ :=
  if |filterPpm| < freqDeadbandPpm ∧ |newPpm| < freqDeadbandPpm then filterPpm
  else filterPpm + alpha * (newPpm - filterPpm)

/-- `update_dynamic_gain`. -/
def FreqState.updateDynamicGain (s : FreqState) (recentJitterUs : UInt64) : FreqState :=
  if recentJitterUs > jitterHighThresholdUs then
    { s with dynamicFllGain := fllLowGain, dynamicPllGain := pllLowGain }
  else if recentJitterUs < jitterLowThresholdUs then
    { s with dynamicFllGain := fllHighGain, dynamicPllGain := pllHighGain }
  else { s with dynamicFllGain := pllNominalGain, dynamicPllGain := pllNominalGain }

/-! ### Initial states -/

/-- The state `init_frequency_discipline` writes. -/
def FreqState.init : FreqState where
  ppm := 0
  lastUpdate := 0
  lastOffsetUs := 0
  state := .nset
  ppmFilter := 0
  dynamicPllGain := pllNominalGain
  dynamicFllGain := pllNominalGain

/-- `init_frequency_discipline`. -/
def initFrequencyDiscipline : DProc ℤ := do
  Proc.update fun d => { d with freq := FreqState.init }
  return 0

/-- `load_frequency_persistent`; `file` is the number `freq_file_read` finds, `none` if it finds
none.  A value that is not finite fails the range test as a number out of range does. -/
def loadFrequencyPersistent (file : Option ℚ) : DProc ℤ := do
  match file with
  | some ppm =>
    if ppm > -freqOffsetMaxPpm ∧ ppm < freqOffsetMaxPpm then
      Proc.update fun d => { d with freq := { d.freq with ppm := ppm, state := .fset } }
      return 0
    else
      Proc.update fun d => { d with freq := { d.freq with state := .nset } }
      return -1
  | none =>
    Proc.update fun d => { d with freq := { d.freq with state := .nset } }
    return -1

/-! ### Adjustment -/

/-- What the kernel answers to `adjtimex`: its return value and the status bits. -/
structure AdjtimexAnswer where
  ret : ℕ
  status : UInt32
  deriving DecidableEq

/-- What the outside answers during an update of the discipline. -/
structure FreqEnv where
  now : ℤ
  adjtimex : Except Errno AdjtimexAnswer
  adjtime : Except Errno Unit

/-- `apply_freq_adjtime`. -/
def applyFreqAdjtime (ppm : ℚ) (env : FreqEnv) : DProc ℤ := do
  let adjSec := ppm / 1000000
  let sec := CInt.trunc adjSec
  let usec := CInt.trunc ((adjSec - sec) * 1000000)
  let delta : ℤ × ℤ := if usec < 0 then (sec - 1, usec + 1000000) else (sec, usec)
  let delta := if delta.1 > 0 ∨ (delta.1 = 0 ∧ delta.2 > 100) then (0, 100) else delta
  let delta := if delta.1 < 0 ∨ (delta.1 = 0 ∧ delta.2 < -100) then (0, -100) else delta
  let r ← sys env.adjtime
  Proc.emit (.adjtime delta.1 delta.2 r.toBool)
  return callStatus r

/-- `apply_freq_adjtimex`. -/
def applyFreqAdjtimex (ppm : ℚ) (env : FreqEnv) : DProc ℤ := do
  let r ← sys env.adjtimex
  Proc.emit (.adjtimex (CInt.trunc (ppm * 65536)) r.toBool)
  match r with
  | .error _ => return -1
  | .ok answer => return if answer.status &&& 0x0040 ≠ 0 then -1 else answer.ret

/-- `apply_frequency_adjustment`. -/
def applyFrequencyAdjustment (ppm : ℚ) (env : FreqEnv) : DProc ℤ := do
  let clamped := clampFrequency ppm
  if |clamped| < 1 / 1000 then return 0
  else
    let r ← applyFreqAdjtimex clamped env
    if r = 0 then
      Proc.update fun d => { d with freq := { d.freq with ppm := clamped } }
      return 0
    else applyFreqAdjtime clamped env

/-! ### The state machine -/

/-- The state `update_frequency_discipline_internal` leaves before it applies the frequency. -/
def FreqState.discipline (s : FreqState) (offsetUs pollExp : ℤ) (jitterUs : UInt64) (now : ℤ) :
    FreqState :=
  let tc := pollSeconds pollExp
  let tc := if tc < freqUpdateIntervalMinSec then freqUpdateIntervalMinSec else tc
  let delta := now - s.lastUpdate
  let s :=
    match s.state with
    | .nset =>
      if delta ≥ tc then { s with ppm := calculateFllPpm offsetUs delta pollExp, state := .fset }
      else s
    | .fset =>
      if delta ≥ tc then
        let newPpmCalc := calculateFllPpm offsetUs delta pollExp
        { s with ppm := s.ppm + (newPpmCalc - s.ppm) / 2 ^ clockFllgain, state := .sync }
      else s
    | .sync | .recover =>
      if delta ≥ tc then
        let newPpmCalc :=
          if pollExp ≥ 11 then calculateFllPpm offsetUs clockAllanIntercept pollExp
          else calculatePllPpm offsetUs delta pollExp
        let s := s.updateDynamicGain jitterUs
        let filtered := applyLoopFilter newPpmCalc s.ppmFilter pllAlpha
        { s with ppmFilter := filtered, ppm := filtered }
      else s
  { s with lastUpdate := now, lastOffsetUs := offsetUs }

/-- `update_frequency_discipline_internal`. -/
def updateFrequencyDisciplineInternal (offsetUs pollExp : ℤ) (jitterUs : UInt64) (env : FreqEnv) :
    DProc ℤ := do
  Proc.update fun d => { d with freq := d.freq.discipline offsetUs pollExp jitterUs env.now }
  let d ← Proc.read
  applyFrequencyAdjustment d.freq.ppm env

/-- `update_frequency_discipline`. -/
def updateFrequencyDiscipline (offsetUs pollExp : ℤ) (env : FreqEnv) : DProc ℤ := do
  Proc.emit (.updateFrequencyDiscipline offsetUs pollExp)
  lock .gMutex
  -- the callee takes the mutex that is held here
  let jitterUs ← ntpOffsetJitterUsLocked
  let result ← updateFrequencyDisciplineInternal offsetUs pollExp jitterUs env
  unlock .gMutex
  return result

end Dntpd

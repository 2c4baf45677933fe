import Mathlib.Tactic.IntervalCases
import Mathlib.Tactic.Linarith
import Dntpd.FreqOps
import Dntpd.Initial
import Dntpd.Library.Run
import Dntpd.Spec.Threads

/-!
# The frequency discipline over runs

A frequency within the bound stays there: every calculation is clamped, and the gain step and the
low-pass filter move between values within it (`FreqState.Bounded`, `frequency_bounded`).

The discipline is to move on once the period has passed, but the time it measures is the time since
the last call, whatever that call did.  So it moves on exactly if a call comes a period after the
call before it (`frequency_progress_iff`); calls that follow one another faster keep it where it is
for good (`FreqCall.starved_fset`).
-/

namespace Dntpd

open Proc

/-- A call of `update_frequency_discipline_internal`, with the clock reading for the accuracy. -/
structure FreqCall where
  offsetUs : ℤ
  pollExp : ℤ
  jitterUs : UInt64
  clock : Timespec
  env : FreqEnv

namespace FreqCall

/-- The daemon after the call. -/
def after (c : FreqCall) (d : Daemon) : Daemon :=
  (updateFrequencyDisciplineInternal c.offsetUs c.pollExp c.jitterUs c.env d).state

/-- The divisions of the call, and the frequencies it hands on. -/
def ops (c : FreqCall) (s : FreqState) : List FreqOp :=
  (FreqOps.updateFrequencyDisciplineInternal c.offsetUs c.pollExp c.jitterUs c.clock c.env s).trace

end FreqCall

/-! ### One call -/

/-- The time constant of the discipline. -/
def disciplinePeriod (pollExp : ℤ) : ℤ :=
  if pollSeconds pollExp < freqUpdateIntervalMinSec then freqUpdateIntervalMinSec
  else pollSeconds pollExp

/-- The branch of the state machine, `delta` seconds after the last call. -/
def FreqState.transition (s : FreqState) (offsetUs pollExp : ℤ) (jitterUs : UInt64) (delta : ℤ) :
    FreqState :=
  match s.state with
  | .nset => { s with ppm := calculateFllPpm offsetUs delta pollExp, state := .fset }
  | .fset =>
    { s with
      ppm := s.ppm + (calculateFllPpm offsetUs delta pollExp - s.ppm) / 2 ^ clockFllgain
      state := .sync }
  | .sync | .recover =>
    let newPpmCalc :=
      if pollExp ≥ 11 then calculateFllPpm offsetUs clockAllanIntercept pollExp
      else calculatePllPpm offsetUs delta pollExp
    let s := s.updateDynamicGain jitterUs
    let filtered := applyLoopFilter newPpmCalc s.ppmFilter pllAlpha
    { s with ppmFilter := filtered, ppm := filtered }

/-- The branch is taken when the period has passed; the time of the call is noted either way. -/
theorem FreqState.discipline_eq (s : FreqState) (offsetUs pollExp : ℤ) (jitterUs : UInt64)
    (now : ℤ) : s.discipline offsetUs pollExp jitterUs now =
      { (if now - s.lastUpdate ≥ disciplinePeriod pollExp then
          s.transition offsetUs pollExp jitterUs (now - s.lastUpdate) else s) with
        lastUpdate := now
        lastOffsetUs := offsetUs } := by
  unfold FreqState.discipline FreqState.transition disciplinePeriod
  generalize pollSeconds pollExp = tc
  obtain ⟨ppm, lastUpdate, lastOffsetUs, state, ppmFilter, pllGain, fllGain⟩ := s
  cases state <;> rfl

/-! ### Divisions and frequencies -/

/-- The divisor is not zero, the frequency is within the bound. -/
def FreqOp.Safe : FreqOp → Prop
  | .div divisor => divisor ≠ 0
  | .applyFreqAdjtimex ppm => |ppm| ≤ freqOffsetMaxPpm
  | .applyFreqAdjtime ppm => |ppm| ≤ freqOffsetMaxPpm

theorem clampFrequency_abs_le (ppm : ℚ) : |clampFrequency ppm| ≤ freqOffsetMaxPpm := by
  have hmax : (0 : ℚ) ≤ freqOffsetMaxPpm := by decide +kernel
  unfold clampFrequency
  split_ifs with hhigh hlow
  · rw [abs_of_nonneg hmax]
  · rw [abs_neg, abs_of_nonneg hmax]
  · exact abs_le.mpr ⟨not_lt.mp hlow, not_lt.mp hhigh⟩

namespace FreqOps

theorem quotient_frame (a : ℚ) {b : ℚ} (hb : b ≠ 0) : Frame id FreqOp.Safe (quotient a b) :=
  .bind (.emit hb) fun _ => .pure _

section

variable (offsetUs deltaSec pollExp : ℤ)

theorem calculateFllPpm_frame :
    Frame id FreqOp.Safe (calculateFllPpm offsetUs deltaSec pollExp) := by
  unfold calculateFllPpm
  refine .ite (.pure _) (.bind (quotient_frame _ (by decide)) fun offsetS => ?_)
  dsimp only
  generalize max (deltaSec : ℚ) _ * _ = denom
  split_ifs with hdenom
  · exact .pure _
  · exact .bind (quotient_frame _ (not_le.mp hdenom).ne') fun _ => .pure _

theorem calculatePllPpm_frame :
    Frame id FreqOp.Safe (calculatePllPpm offsetUs deltaSec pollExp) := by
  unfold calculatePllPpm
  refine .ite (.pure _) ?_
  dsimp only
  generalize pollSeconds pollExp = pollInterval
  generalize 4 * 65536 * (pollInterval : ℚ) * pollInterval = dtemp
  refine Decidable.byCases (fun hdtemp : dtemp ≤ 0 => ?_) fun hdtemp => ?_
  · rw [if_pos hdtemp]
    exact .pure _
  · rw [if_neg hdtemp]
    refine .bind (quotient_frame _ (by decide)) fun offsetS => ?_
    exact .bind (quotient_frame _ (not_le.mp hdtemp).ne') fun _ => .pure _

theorem calculateSyncPpm_frame :
    Frame id FreqOp.Safe (calculateSyncPpm offsetUs deltaSec pollExp) :=
  .ite (calculateFllPpm_frame _ _ _) (calculatePllPpm_frame _ _ _)

theorem updateClockAccuracy_frame (clock : Timespec) :
    Frame id FreqOp.Safe (updateClockAccuracy offsetUs deltaSec clock) := by
  unfold updateClockAccuracy calculateClockPrecision calculateAllanVariance
  refine .bind (.bind (quotient_frame _ (by decide)) fun _ => .pure _) fun _ => .bind ?_ fun _ => ?_
  · split_ifs with hdelta
    · exact .pure _
    · have hdivisor : (deltaSec : ℚ) ≠ 0 := Int.cast_ne_zero.mpr (by omega)
      refine .bind (quotient_frame _ (by decide)) fun freqOffset => ?_
      exact .bind (quotient_frame _ hdivisor) fun _ => .pure _
  · exact .emit (by decide : (16 : ℚ) ≠ 0)

end

theorem applyFreqAdjtime_frame {ppm : ℚ} (hppm : |ppm| ≤ freqOffsetMaxPpm) (env : FreqEnv) :
    Frame id FreqOp.Safe (applyFreqAdjtime ppm env) :=
  .bind (.emit hppm) fun _ => .bind (quotient_frame _ (by decide)) fun _ => .pure _

theorem applyFreqAdjtimex_frame {ppm : ℚ} (hppm : |ppm| ≤ freqOffsetMaxPpm) (env : FreqEnv) :
    Frame id FreqOp.Safe (applyFreqAdjtimex ppm env) := by
  unfold applyFreqAdjtimex
  refine .bind (.emit hppm) fun _ => ?_
  cases env.adjtimex <;> exact .pure _

/-- Where the state may change only the trace is bounded. -/
theorem frame_any {α : Type} {p : FreqProc α} (hp : Frame id FreqOp.Safe p) :
    Frame (fun _ => ()) FreqOp.Safe p :=
  hp.mono (fun _ => ()) fun _ he => he

theorem applyFrequencyAdjustment_frame (ppm : ℚ) (env : FreqEnv) :
    Frame (fun _ => ()) FreqOp.Safe (applyFrequencyAdjustment ppm env) := by
  have hclamped := clampFrequency_abs_le ppm
  unfold applyFrequencyAdjustment
  refine .ite (.pure _) (.bind (frame_any (applyFreqAdjtimex_frame hclamped env)) fun r => ?_)
  refine .ite (.bind (.update fun _ => rfl) fun _ => .pure _) ?_
  exact frame_any (applyFreqAdjtime_frame hclamped env)

theorem transition_frame (offsetUs pollExp : ℤ) (jitterUs : UInt64) (delta : ℤ)
    (clock : Timespec) (s : FreqState) :
    Frame (fun _ => ()) FreqOp.Safe (transition offsetUs pollExp jitterUs delta clock s) := by
  have hfll := frame_any (calculateFllPpm_frame offsetUs delta pollExp)
  have hsync := frame_any (calculateSyncPpm_frame offsetUs delta pollExp)
  have haccuracy := frame_any (updateClockAccuracy_frame offsetUs delta clock)
  have hgain : (2 : ℚ) ^ clockFllgain ≠ 0 := by decide
  unfold transition
  cases s.state with
  | nset => exact .bind hfll fun _ => .update fun _ => rfl
  | fset =>
    exact .bind hfll fun _ => .bind (frame_any (quotient_frame _ hgain)) fun _ =>
      .update fun _ => rfl
  | sync => exact .bind haccuracy fun _ => .bind hsync fun _ => .update fun _ => rfl
  | recover => exact .bind haccuracy fun _ => .bind hsync fun _ => .update fun _ => rfl

/-- No call divides by zero, and none hands on a frequency beyond the bound. -/
theorem updateFrequencyDisciplineInternal_frame (offsetUs pollExp : ℤ) (jitterUs : UInt64)
    (clock : Timespec) (env : FreqEnv) : Frame (fun _ => ()) FreqOp.Safe
      (updateFrequencyDisciplineInternal offsetUs pollExp jitterUs clock env) := by
  unfold updateFrequencyDisciplineInternal discipline
  refine .bind (.bind .read fun s => .ite (transition_frame _ _ _ _ _ _) (.pure _)) fun _ => ?_
  refine .bind (.update fun _ => rfl) fun _ => .bind .read fun s => ?_
  exact applyFrequencyAdjustment_frame _ _

/-! ### Without the trace -/

section

variable (offsetUs deltaSec pollExp : ℤ) (s : FreqState)

theorem calculateFllPpm_ret : (calculateFllPpm offsetUs deltaSec pollExp s).ret =
    Dntpd.calculateFllPpm offsetUs deltaSec pollExp := by
  unfold calculateFllPpm Dntpd.calculateFllPpm quotient
  simp only [ite_ret, bind_ret, pure_ret]

theorem calculatePllPpm_ret : (calculatePllPpm offsetUs deltaSec pollExp s).ret =
    Dntpd.calculatePllPpm offsetUs deltaSec pollExp := by
  unfold calculatePllPpm Dntpd.calculatePllPpm quotient
  generalize pollSeconds pollExp = pollInterval
  simp only [ite_ret, bind_ret, pure_ret]

theorem calculateSyncPpm_ret : (calculateSyncPpm offsetUs deltaSec pollExp s).ret =
    if pollExp ≥ 11 then Dntpd.calculateFllPpm offsetUs clockAllanIntercept pollExp
    else Dntpd.calculatePllPpm offsetUs deltaSec pollExp := by
  unfold calculateSyncPpm
  rw [ite_ret, calculateFllPpm_ret, calculatePllPpm_ret]

end

/-- What follows a procedure that leaves the state alone starts in the same state. -/
theorem bind_state_of_frame {α β : Type} {p : FreqProc α} (hp : Frame id FreqOp.Safe p)
    (f : α → FreqProc β) (s : FreqState) : ((p >>= f) s).state = (f (p s).ret s).state := by
  have hs : (p s).state = s := hp.state s
  rw [bind_state, hs]

theorem transition_state (offsetUs pollExp : ℤ) (jitterUs : UInt64) (delta : ℤ)
    (clock : Timespec) (s : FreqState) :
    (transition offsetUs pollExp jitterUs delta clock s s).state =
      s.transition offsetUs pollExp jitterUs delta := by
  have hfll := calculateFllPpm_frame offsetUs delta pollExp
  have hsync := calculateSyncPpm_frame offsetUs delta pollExp
  have haccuracy := updateClockAccuracy_frame offsetUs delta clock
  have hgain : (2 : ℚ) ^ clockFllgain ≠ 0 := by decide
  unfold transition FreqState.transition
  -- the estimate of the state, in the order of the automaton
  obtain ⟨ppm, lastUpdate, lastOffsetUs, state, ppmFilter, pllGain, fllGain⟩ := s
  cases state with
  | nset =>
    dsimp only
    rw [bind_state_of_frame hfll, calculateFllPpm_ret, update_state]
  | fset =>
    dsimp only
    rw [bind_state_of_frame hfll, bind_state_of_frame (quotient_frame _ hgain),
      calculateFllPpm_ret, update_state]
    rfl
  | sync =>
    dsimp only
    rw [bind_state_of_frame haccuracy, bind_state_of_frame hsync, calculateSyncPpm_ret,
      update_state]
  | recover =>
    dsimp only
    rw [bind_state_of_frame haccuracy, bind_state_of_frame hsync, calculateSyncPpm_ret,
      update_state]

theorem discipline_state (offsetUs pollExp : ℤ) (jitterUs : UInt64) (now : ℤ) (clock : Timespec)
    (s : FreqState) : (discipline offsetUs pollExp jitterUs now clock s).state =
      if now - s.lastUpdate ≥ disciplinePeriod pollExp then
        s.transition offsetUs pollExp jitterUs (now - s.lastUpdate)
      else s := by
  have hrun : discipline offsetUs pollExp jitterUs now clock s =
      (if now - s.lastUpdate ≥ disciplinePeriod pollExp then
        transition offsetUs pollExp jitterUs (now - s.lastUpdate) clock s else pure ()) s := rfl
  rw [hrun, ite_run]
  split_ifs
  · exact transition_state _ _ _ _ _ _
  · rfl

section

variable (ppm : ℚ) (env : FreqEnv) (s : FreqState) (d : Daemon)

theorem applyFreqAdjtime_ret :
    (applyFreqAdjtime ppm env s).ret = (Dntpd.applyFreqAdjtime ppm env d).ret := by
  have hplain : (Dntpd.applyFreqAdjtime ppm env d).ret = callStatus (sys env.adjtime d).ret := rfl
  rw [hplain, sys_ret]
  rfl

theorem applyFreqAdjtimex_ret :
    (applyFreqAdjtimex ppm env s).ret = (Dntpd.applyFreqAdjtimex ppm env d).ret := by
  unfold applyFreqAdjtimex Dntpd.applyFreqAdjtimex
  rw [bind_ret, bind_ret, bind_ret, sys_ret]
  cases env.adjtimex <;> rfl

theorem applyFreqAdjtime_freq : (Dntpd.applyFreqAdjtime ppm env d).state.freq = d.freq := by
  have hframe : Frame Daemon.freq (fun _ => True) (Dntpd.applyFreqAdjtime ppm env) := by
    unfold Dntpd.applyFreqAdjtime
    exact .bind ((sys_frame _ _).mono Daemon.freq fun _ h => h) fun _ =>
      .bind (.emit trivial) fun _ => .pure _
  exact hframe.state d

theorem applyFreqAdjtimex_freq : (Dntpd.applyFreqAdjtimex ppm env d).state.freq = d.freq := by
  have hframe : Frame Daemon.freq (fun _ => True) (Dntpd.applyFreqAdjtimex ppm env) := by
    unfold Dntpd.applyFreqAdjtimex
    refine .bind ((sys_frame _ _).mono Daemon.freq fun _ h => h) fun r => ?_
    refine .bind (.emit trivial) fun _ => ?_
    cases r <;> exact .pure _
  exact hframe.state d

/-- The adjustment stores the frequency, clamped, or leaves the state as it is. -/
theorem applyFrequencyAdjustment_freq : (Dntpd.applyFrequencyAdjustment ppm env d).state.freq =
    (applyFrequencyAdjustment ppm env d.freq).state := by
  have hadjtimex := applyFreqAdjtimex_frame (clampFrequency_abs_le ppm) env
  have hadjtime := applyFreqAdjtime_frame (clampFrequency_abs_le ppm) env
  have hret := applyFreqAdjtimex_ret (clampFrequency ppm) env d.freq d
  unfold applyFrequencyAdjustment Dntpd.applyFrequencyAdjustment
  dsimp only
  rw [ite_run, ite_run]
  split_ifs
  · rfl
  · rw [bind_state_of_frame hadjtimex, bind_state, ite_run, ite_run, hret]
    split_ifs
    · rw [bind_state, update_state, pure_state, bind_state, update_state, pure_state,
        applyFreqAdjtimex_freq]
    · have hs : (applyFreqAdjtime (clampFrequency ppm) env d.freq).state = d.freq :=
        hadjtime.state d.freq
      rw [applyFreqAdjtime_freq, applyFreqAdjtimex_freq, hs]

theorem applyFrequencyAdjustment_ret : (Dntpd.applyFrequencyAdjustment ppm env d).ret =
    (applyFrequencyAdjustment ppm env s).ret := by
  unfold applyFrequencyAdjustment Dntpd.applyFrequencyAdjustment
  dsimp only
  rw [ite_ret, ite_ret, bind_ret, bind_ret, ite_ret, ite_ret,
    applyFreqAdjtimex_ret (clampFrequency ppm) env s d]
  split_ifs
  · rfl
  · rfl
  · rw [applyFreqAdjtime_ret]

end

/-- Without its trace the call is the call of the daemon. -/
theorem updateFrequencyDisciplineInternal_run (offsetUs pollExp : ℤ) (jitterUs : UInt64)
    (clock : Timespec) (env : FreqEnv) (d : Daemon) :
    (updateFrequencyDisciplineInternal offsetUs pollExp jitterUs clock env d.freq).state =
        (Dntpd.updateFrequencyDisciplineInternal offsetUs pollExp jitterUs env d).state.freq ∧
      (updateFrequencyDisciplineInternal offsetUs pollExp jitterUs clock env d.freq).ret =
        (Dntpd.updateFrequencyDisciplineInternal offsetUs pollExp jitterUs env d).ret := by
  have hs : { (discipline offsetUs pollExp jitterUs env.now clock d.freq).state with
      lastUpdate := env.now
      lastOffsetUs := offsetUs } = d.freq.discipline offsetUs pollExp jitterUs env.now := by
    rw [discipline_state, FreqState.discipline_eq]
  unfold updateFrequencyDisciplineInternal Dntpd.updateFrequencyDisciplineInternal
  simp only [bind_state, bind_ret, update_state, read_ret, read_state, hs]
  exact ⟨(applyFrequencyAdjustment_freq _ _ { d with
    freq := d.freq.discipline offsetUs pollExp jitterUs env.now }).symm,
    (applyFrequencyAdjustment_ret _ _ _ _).symm⟩

end FreqOps

/-! ### The bound -/

/-- The frequency and the filter are within the bound. -/
structure FreqState.Bounded (s : FreqState) : Prop where
  ppm : |s.ppm| ≤ freqOffsetMaxPpm
  filter : |s.ppmFilter| ≤ freqOffsetMaxPpm

theorem freqOffsetMaxPpm_nonneg : (0 : ℚ) ≤ freqOffsetMaxPpm := by decide +kernel

/-- A step from one value towards another stays within their bound. -/
theorem abs_add_mul_sub_le {x y bound gain : ℚ} (hx : |x| ≤ bound) (hy : |y| ≤ bound)
    (hpos : 0 ≤ gain) (hle : gain ≤ 1) : |x + gain * (y - x)| ≤ bound := by
  -- the new value lies between the two
  have hconvex : x + gain * (y - x) = (1 - gain) * x + gain * y := by ring
  calc |x + gain * (y - x)| = |(1 - gain) * x + gain * y| := by rw [hconvex]
    _ ≤ |(1 - gain) * x| + |gain * y| := abs_add_le _ _
    _ = (1 - gain) * |x| + gain * |y| := by
      rw [abs_mul, abs_mul, abs_of_nonneg hpos, abs_of_nonneg (sub_nonneg.mpr hle)]
    _ ≤ (1 - gain) * bound + gain * bound :=
      add_le_add (mul_le_mul_of_nonneg_left hx (sub_nonneg.mpr hle))
        (mul_le_mul_of_nonneg_left hy hpos)
    _ = bound := by ring

theorem calculateFllPpm_abs_le (offsetUs deltaSec pollExp : ℤ) :
    |calculateFllPpm offsetUs deltaSec pollExp| ≤ freqOffsetMaxPpm := by
  have hzero : |(0 : ℚ)| ≤ freqOffsetMaxPpm := abs_zero.trans_le freqOffsetMaxPpm_nonneg
  unfold calculateFllPpm
  dsimp only
  generalize max (deltaSec : ℚ) _ * _ = denom
  split_ifs
  · exact hzero
  · exact hzero
  · exact clampFrequency_abs_le _

theorem calculatePllPpm_abs_le (offsetUs deltaSec pollExp : ℤ) :
    |calculatePllPpm offsetUs deltaSec pollExp| ≤ freqOffsetMaxPpm := by
  have hzero : |(0 : ℚ)| ≤ freqOffsetMaxPpm := abs_zero.trans_le freqOffsetMaxPpm_nonneg
  unfold calculatePllPpm
  dsimp only
  generalize pollSeconds pollExp = pollInterval
  generalize 4 * 65536 * (pollInterval : ℚ) * pollInterval = dtemp
  generalize (if deltaSec < pollInterval then deltaSec else pollInterval) = etemp
  split_ifs
  · exact hzero
  · exact hzero
  · exact clampFrequency_abs_le _

theorem applyLoopFilter_abs_le {newPpm filterPpm alpha : ℚ} (hnew : |newPpm| ≤ freqOffsetMaxPpm)
    (hfilter : |filterPpm| ≤ freqOffsetMaxPpm) (hpos : 0 ≤ alpha) (hle : alpha ≤ 1) :
    |applyLoopFilter newPpm filterPpm alpha| ≤ freqOffsetMaxPpm := by
  unfold applyLoopFilter
  split_ifs
  · exact hfilter
  · exact abs_add_mul_sub_le hfilter hnew hpos hle

namespace FreqState.Bounded

theorem init : FreqState.init.Bounded :=
  ⟨abs_zero.trans_le freqOffsetMaxPpm_nonneg, abs_zero.trans_le freqOffsetMaxPpm_nonneg⟩

theorem withPpm {s : FreqState} (hs : s.Bounded) {ppm : ℚ} (hppm : |ppm| ≤ freqOffsetMaxPpm)
    (state : FreqMode) : { s with ppm := ppm, state := state }.Bounded :=
  ⟨hppm, hs.filter⟩

theorem updateDynamicGain {s : FreqState} (hs : s.Bounded) (jitterUs : UInt64) :
    (s.updateDynamicGain jitterUs).Bounded := by
  unfold FreqState.updateDynamicGain
  split_ifs <;> exact ⟨hs.ppm, hs.filter⟩

theorem transition {s : FreqState} (hs : s.Bounded) (offsetUs pollExp : ℤ) (jitterUs : UInt64)
    (delta : ℤ) : (s.transition offsetUs pollExp jitterUs delta).Bounded := by
  have hfll := calculateFllPpm_abs_le offsetUs delta pollExp
  have hcalc : |if pollExp ≥ 11 then calculateFllPpm offsetUs clockAllanIntercept pollExp
      else calculatePllPpm offsetUs delta pollExp| ≤ freqOffsetMaxPpm := by
    split_ifs
    · exact calculateFllPpm_abs_le _ _ _
    · exact calculatePllPpm_abs_le _ _ _
  have hfiltered := applyLoopFilter_abs_le hcalc (hs.updateDynamicGain jitterUs).filter
    (by decide +kernel : (0 : ℚ) ≤ pllAlpha) (by decide +kernel)
  unfold FreqState.transition
  cases s.state with
  | nset => exact hs.withPpm hfll .fset
  | fset =>
    refine hs.withPpm ?_ .sync
    rw [div_eq_inv_mul]
    exact abs_add_mul_sub_le hs.ppm hfll (by decide +kernel) (by decide +kernel)
  | sync => exact ⟨hfiltered, hfiltered⟩
  | recover => exact ⟨hfiltered, hfiltered⟩

theorem discipline {s : FreqState} (hs : s.Bounded) (offsetUs pollExp : ℤ) (jitterUs : UInt64)
    (now : ℤ) : (s.discipline offsetUs pollExp jitterUs now).Bounded := by
  -- a call before the period is over only moves the time of the last one
  have hbranch : (if now - s.lastUpdate ≥ disciplinePeriod pollExp then
      s.transition offsetUs pollExp jitterUs (now - s.lastUpdate) else s).Bounded := by
    split_ifs
    · exact hs.transition _ _ _ _
    · exact hs
  rw [FreqState.discipline_eq]
  exact ⟨hbranch.ppm, hbranch.filter⟩

end FreqState.Bounded

/-- The adjustment stores nothing, or the clamped frequency. -/
theorem applyFrequencyAdjustment_cases (ppm : ℚ) (env : FreqEnv) (d : Daemon) :
    (applyFrequencyAdjustment ppm env d).state.freq = d.freq ∨
      (applyFrequencyAdjustment ppm env d).state.freq =
        { d.freq with ppm := clampFrequency ppm } := by
  have hadjtimex := FreqOps.applyFreqAdjtimex_freq (clampFrequency ppm) env d
  unfold applyFrequencyAdjustment
  dsimp only
  rw [ite_run]
  split_ifs
  · exact .inl rfl
  · rw [bind_state, ite_run]
    split_ifs
    · rw [bind_state, update_state, pure_state, hadjtimex]
      exact .inr rfl
    · rw [FreqOps.applyFreqAdjtime_freq]
      exact .inl hadjtimex

namespace FreqCall

/-- The call, up to the adjustment. -/
theorem after_eq (c : FreqCall) (d : Daemon) : c.after d =
    (applyFrequencyAdjustment (d.freq.discipline c.offsetUs c.pollExp c.jitterUs c.env.now).ppm
      c.env
      { d with freq := d.freq.discipline c.offsetUs c.pollExp c.jitterUs c.env.now }).state := by
  unfold after updateFrequencyDisciplineInternal
  rw [bind_state, update_state, bind_state, read_ret, read_state]

/-- One call keeps the bound. -/
theorem after_bounded (c : FreqCall) {d : Daemon} (hd : d.freq.Bounded) :
    (c.after d).freq.Bounded := by
  have hdiscipline := hd.discipline c.offsetUs c.pollExp c.jitterUs c.env.now
  rw [after_eq]
  rcases applyFrequencyAdjustment_cases
    (d.freq.discipline c.offsetUs c.pollExp c.jitterUs c.env.now).ppm c.env
    { d with freq := d.freq.discipline c.offsetUs c.pollExp c.jitterUs c.env.now } with h | h
  · rw [h]
    exact hdiscipline
  · rw [h]
    exact ⟨clampFrequency_abs_le _, hdiscipline.filter⟩

theorem ops_safe (c : FreqCall) (s : FreqState) : ∀ op ∈ c.ops s, op.Safe :=
  (FreqOps.updateFrequencyDisciplineInternal_frame _ _ _ _ _).trace s

end FreqCall

/-- The start: initialization, and the file if it is loaded. -/
def freqStart (load : Bool) (file : Option ℚ) : DProc ℤ := do
  let result ← initFrequencyDiscipline
  if load then loadFrequencyPersistent file else return result

theorem freqStart_bounded (load : Bool) (file : Option ℚ) (d : Daemon) :
    (freqStart load file d).state.freq.Bounded := by
  have hinit := FreqState.Bounded.init
  cases load with
  | false => exact hinit
  | true =>
    cases file with
    | none => exact hinit.withPpm hinit.ppm .nset
    | some ppm =>
      change (ite (ppm > -freqOffsetMaxPpm ∧ ppm < freqOffsetMaxPpm) _ _ : DProc ℤ) _
        |>.state.freq.Bounded
      -- the file is only taken if it is within the bound
      rw [ite_run]
      split_ifs with hrange
      · exact hinit.withPpm (abs_le.mpr ⟨hrange.1.le, hrange.2.le⟩) .fset
      · exact hinit.withPpm hinit.ppm .nset

/-- Along every run from the start frequency and filter are within the bound, and so is every
frequency handed on; no divisor is zero. -/
theorem frequency_bounded (load : Bool) (file : Option ℚ) (d : Daemon) (calls : List FreqCall) :
    Run.Along FreqCall.after (fun c t => t.freq.Bounded ∧ (c.after t).freq.Bounded ∧
      ∀ op ∈ c.ops t.freq, op.Safe) calls (freqStart load file d).state := by
  have halong : Run.Along FreqCall.after (fun _ t => t.freq.Bounded) calls
      (freqStart load file d).state :=
    (Run.Along.invariant (I := fun t : Daemon => t.freq.Bounded) (P := fun _ _ => True)
      (fun c _ ht _ => FreqCall.after_bounded c ht) (freqStart_bounded load file d)
      (Run.along_of_forall_mem fun _ _ _ => trivial)).1
  exact halong.mono fun c t ht => ⟨ht, c.after_bounded ht, c.ops_safe t.freq⟩

/-! ### Progress -/

/-- The longest of a minute and the poll interval. -/
theorem disciplinePeriod_eq {pollExp : ℕ} (hpoll : pollExp ≤ 12) :
    disciplinePeriod pollExp = max 64 (2 ^ pollExp) := by
  unfold disciplinePeriod
  interval_cases pollExp <;> decide

namespace FreqCall

/-- The call with this poll exponent. -/
def atPoll (pollExp : ℕ) (c : FreqCall) : FreqCall := { c with pollExp := pollExp }

/-- The call at the fixed poll exponent. -/
def afterAt (pollExp : ℕ) (c : FreqCall) (d : Daemon) : Daemon := (c.atPoll pollExp).after d

/-- The adjustment leaves the state of the discipline as it is. -/
theorem after_state (c : FreqCall) (d : Daemon) : (c.after d).freq.state =
    (d.freq.discipline c.offsetUs c.pollExp c.jitterUs c.env.now).state := by
  rw [after_eq]
  rcases applyFrequencyAdjustment_cases
    (d.freq.discipline c.offsetUs c.pollExp c.jitterUs c.env.now).ppm c.env
    { d with freq := d.freq.discipline c.offsetUs c.pollExp c.jitterUs c.env.now } with h | h
  · rw [h]
  · rw [h]

/-- From `FREQ_STATE_FSET` a call goes on if the period has passed since the last one. -/
theorem after_fset {c : FreqCall} {d : Daemon} (hd : d.freq.state = .fset) :
    (c.after d).freq.state =
      if d.freq.lastUpdate + disciplinePeriod c.pollExp ≤ c.env.now then .sync else .fset := by
  have hdue : c.env.now - d.freq.lastUpdate ≥ disciplinePeriod c.pollExp ↔
      d.freq.lastUpdate + disciplinePeriod c.pollExp ≤ c.env.now := by omega
  rw [after_state, FreqState.discipline_eq]
  simp only [hdue]
  split_ifs
  · unfold FreqState.transition
    rw [hd]
  · exact hd

theorem after_sync {c : FreqCall} {d : Daemon} (hd : d.freq.state = .sync) :
    (c.after d).freq.state = .sync := by
  rw [after_state, FreqState.discipline_eq]
  dsimp only
  split_ifs
  · unfold FreqState.transition FreqState.updateDynamicGain
    rw [hd]
    dsimp only
    split_ifs <;> rfl
  · exact hd

/-- A call that comes sooner than the period after the last one leaves `FREQ_STATE_FSET`. -/
theorem starved_fset {pollExp : ℕ} {calls : List FreqCall} {d : Daemon}
    (hd : d.freq.state = .fset)
    (hstarved : Run.Along (afterAt pollExp) (fun c t =>
      c.env.now < t.freq.lastUpdate + disciplinePeriod pollExp) calls d) :
    (Run.runSteps (afterAt pollExp) calls d).freq.state = .fset := by
  refine (Run.Along.invariant (I := fun t : Daemon => t.freq.state = .fset) ?_ hd hstarved).2
  intro c t ht hsoon
  exact (after_fset ht).trans (if_neg (not_le.mpr hsoon))

end FreqCall

/-- After `FREQ_STATE_FSET` at the time `start` a call a period later leaves `FREQ_STATE_SYNC`. -/
def Progresses (pollExp : ℕ) (start : ℤ) (c : FreqCall) (d : Daemon) : Prop :=
  start + max 64 (2 ^ pollExp) ≤ c.env.now → (c.afterAt pollExp d).freq.state = .sync

/-- A call a period later that finds `FREQ_STATE_FSET` comes a period after the last call. -/
def Unhurried (pollExp : ℕ) (start : ℤ) (c : FreqCall) (d : Daemon) : Prop :=
  start + max 64 (2 ^ pollExp) ≤ c.env.now → d.freq.state = .fset →
    d.freq.lastUpdate + max 64 (2 ^ pollExp) ≤ c.env.now

/-- From a call that left `FREQ_STATE_FSET` every call a period later leaves `FREQ_STATE_SYNC`
exactly if the calls that could do so are a period apart from the calls before them. -/
theorem frequency_progress_iff {pollExp : ℕ} (hpoll : pollExp ≤ 12) (first : FreqCall) (d : Daemon)
    (hfset : (first.afterAt pollExp d).freq.state = .fset) (calls : List FreqCall) :
    Run.Along (FreqCall.afterAt pollExp) (Progresses pollExp first.env.now) calls
        (first.afterAt pollExp d) ↔
      Run.Along (FreqCall.afterAt pollExp) (Unhurried pollExp first.env.now) calls
        (first.afterAt pollExp d) := by
  have hperiod := disciplinePeriod_eq hpoll
  have hafter : ∀ (c : FreqCall) (t : Daemon), t.freq.state = .fset →
      (c.afterAt pollExp t).freq.state =
        if t.freq.lastUpdate + max 64 (2 ^ pollExp) ≤ c.env.now then .sync else .fset := by
    intro c t ht
    rw [← hperiod]
    exact FreqCall.after_fset ht
  refine Run.along_iff_of_invariant
    (I := fun t : Daemon => t.freq.state = .fset ∨ t.freq.state = .sync) ?_ ?_ (.inl hfset)
  · intro c t ht
    unfold Progresses Unhurried
    rcases ht with ht | ht
    · rw [hafter c t ht]
      constructor
      -- a call that comes too soon would stay in `FREQ_STATE_FSET`
      · intro h hlate _
        by_contra hsoon
        cases (if_neg hsoon).symm.trans (h hlate)
      · intro h hlate
        exact if_pos (h hlate ht)
    -- `FREQ_STATE_SYNC` is not left again
    · exact iff_of_true (fun _ => FreqCall.after_sync ht) fun _ h => by
        cases ht.symm.trans h
  · intro c t ht _
    rcases ht with ht | ht
    · rw [hafter c t ht]
      split_ifs
      · exact .inr rfl
      · exact .inl rfl
    · exact .inr (FreqCall.after_sync ht)

/-- A call at the time `now` that finds no offset, and a kernel that takes every frequency. -/
def quietCall (now : ℤ) : FreqCall where
  offsetUs := 0
  pollExp := 4
  jitterUs := 0
  clock := wholeSecond now
  env := ⟨now, .ok ⟨0, 0⟩, .ok ()⟩

/-- The daemon with a frequency from the file. -/
def loadedDaemon : Daemon := (freqStart true (some 20) Daemon.init).state

theorem loadedDaemon_fset : ((quietCall 0).afterAt 4 loadedDaemon).freq.state = .fset := by
  decide +kernel

/-- Calls 30 and 100 seconds after the first: the second one moves on. -/
theorem quietCalls_progress :
    Run.Along (FreqCall.afterAt 4) (Progresses 4 (quietCall 0).env.now)
      [quietCall 30, quietCall 100] ((quietCall 0).afterAt 4 loadedDaemon) := by
  refine (frequency_progress_iff (by decide) (quietCall 0) loadedDaemon loadedDaemon_fset _).mpr ?_
  have hsoon : ¬ (0 : ℤ) + max 64 (2 ^ 4) ≤ 30 := by decide
  refine ⟨fun h => absurd h hsoon, fun _ _ => ?_, trivial⟩
  decide +kernel

/-- Calls every 30 seconds: after 90 seconds nothing has moved. -/
theorem regularCalls_starve :
    ¬ Run.Along (FreqCall.afterAt 4) (Progresses 4 (quietCall 0).env.now)
      [quietCall 30, quietCall 60, quietCall 90] ((quietCall 0).afterAt 4 loadedDaemon) := by
  rintro ⟨-, -, hprogress, -⟩
  exact absurd (hprogress (by decide)) (by decide +kernel)

end Dntpd

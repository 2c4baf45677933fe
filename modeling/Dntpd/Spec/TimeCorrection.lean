import Mathlib.Algebra.Order.Ring.Int
import Dntpd.Library.CInt
import Dntpd.NtpAlgorithms
import Dntpd.Spec.LeapSecond

/-!
# The call a correction makes

A correction makes at most one call that sets the clock or its slew: `correctionCall` is that call,
`CorrectionOutcome` what the correction does with it.  It makes none exactly if the offset is a
panic, or the clock is to be stepped and cannot be read or would leave the 64-bit nanoseconds
(`correctionCall_eq_none_iff`).
-/

namespace CInt

/-! ### Sums that leave the range -/

/-- The test in front of an addition is exact. -/
theorem add_overflows_iff {a b : ℤ} (ha : InInt64 a) :
    (b > 0 ∧ a > int64Max - b) ∨ (b < 0 ∧ a < int64Min - b) ↔ ¬ InInt64 (a + b) := by
  unfold InInt64 at *
  unfold int64Max int64Min
  omega

theorem inInt64_int64 (x : ℤ) : InInt64 (int64 x) := by
  unfold InInt64 int64
  omega

end CInt

namespace Dntpd

open Proc CInt

/-! ### Calls -/

/-- A call that sets the clock or its slew. -/
inductive ClockCall
  | settime (sec nsec : ℤ)
  | adjtime (sec usec : ℤ)
  deriving DecidableEq

/-- The call an event is, if it is one. -/
def Event.clockCall : Event → Option ClockCall
  | .clockSettime sec nsec _ => some (.settime sec nsec)
  | .adjtime sec usec _ => some (.adjtime sec usec)
  | _ => none

/-- The calls of a trace, in order. -/
def clockCalls (tr : List Event) : List ClockCall := tr.filterMap Event.clockCall

@[simp] theorem clockCalls_nil : clockCalls [] = [] := rfl

@[simp] theorem clockCalls_append (tr tr' : List Event) :
    clockCalls (tr ++ tr') = clockCalls tr ++ clockCalls tr' :=
  List.filterMap_append

theorem Event.LocksOnly.clockCall {ms : List Mutex} {e : Event} (he : e.LocksOnly ms) :
    e.clockCall = none := by
  cases e <;> first | rfl | exact he.elim

theorem clockCalls_of_frame {α κ : Type} {keep : Daemon → κ} {E : Event → Prop} {p : DProc α}
    (hp : Frame keep E p) (hE : ∀ e, E e → e.clockCall = none) (d : Daemon) :
    clockCalls (p d).trace = [] :=
  hp.filterMap_eq_nil hE d

/-- What the kernel answers a call. -/
def CorrectionEnv.answer (env : CorrectionEnv) : ClockCall → Except Errno Unit
  | .settime _ _ => env.settime
  | .adjtime _ _ => env.adjtime

/-- The status a correction returns for the call it makes: -1 without a call. -/
def CorrectionEnv.status (env : CorrectionEnv) (call : Option ClockCall) : ℤ :=
  call.elim (-1) fun c => callStatus (env.answer c)

/-! ### The call of a correction -/

/-- The offset in microseconds is a panic. -/
def Panics (threshold : UInt16) (offsetUs : ℤ) : Prop :=
  abs64 offsetUs > threshold.toNat * 1000000000

instance (threshold : UInt16) (offsetUs : ℤ) : Decidable (Panics threshold offsetUs) := by
  unfold Panics
  infer_instance

theorem not_panics_zero (threshold : UInt16) : ¬ Panics threshold 0 := by
  unfold Panics abs64
  rw [if_neg (lt_irrefl 0)]
  omega

/-- The 64-bit nanoseconds of a clock reading. -/
def Timespec.ns (now : Timespec) : ℤ := int64 (int64 (now.sec * 1000000000) + now.nsec)

theorem Timespec.inInt64_ns (now : Timespec) : InInt64 now.ns := inInt64_int64 _

/-- The call that steps the clock from `now`. -/
def stepCall (offsetUs : ℤ) (now : Timespec) : Option ClockCall :=
  let offsetNs := int64 (offsetUs * 1000)
  if InInt64 (now.ns + offsetNs) then
    let new := splitUnits (now.ns + offsetNs) 1000000000
    some (.settime new.1 new.2)
  else none

/-- The call that slews the clock. -/
def slewCall (offsetUs : ℤ) : ClockCall :=
  let delta := splitUnits offsetUs 1000000
  .adjtime delta.1 delta.2

/-- The call a correction by `offsetUs` makes. -/
def correctionCall (threshold : UInt16) (offsetUs : ℤ) (clock : Except Errno Timespec) :
    Option ClockCall :=
  if Panics threshold offsetUs then none
  else if offsetUs > stepThresholdUs ∨ offsetUs < -stepThresholdUs then
    match clock with
    | .error _ => none
    | .ok now => stepCall offsetUs now
  else some (slewCall offsetUs)

/-- The outcome of a correction that makes the call `call`, or none. -/
structure CorrectionOutcome (call : Option ClockCall) (env : CorrectionEnv)
    (o : Outcome Daemon Event ℤ) : Prop where
  ret : o.ret = env.status call
  calls : clockCalls o.trace = call.toList

namespace CorrectionOutcome

variable {call : Option ClockCall} {env : CorrectionEnv} {d : Daemon}

theorem fail : CorrectionOutcome none env ((return -1 : DProc ℤ) d) := ⟨rfl, rfl⟩

theorem frame_bind {α κ : Type} {keep : Daemon → κ} {E : Event → Prop} {p : DProc α}
    (hp : Frame keep E p) (hE : ∀ e, E e → e.clockCall = none) {f : α → DProc ℤ}
    (hf : CorrectionOutcome call env (f (p d).ret (p d).state)) :
    CorrectionOutcome call env ((p >>= f) d) where
  ret := hf.ret
  calls := by
    rw [bind_trace, clockCalls_append, clockCalls_of_frame hp hE, List.nil_append]
    exact hf.calls

theorem sys_bind {α : Type} {r : Except Errno α} {f : Except Errno α → DProc ℤ}
    (hf : CorrectionOutcome call env (f r (sys r d).state)) :
    CorrectionOutcome call env ((sys r >>= f) d) := by
  refine frame_bind (sys_frame r fun _ => False) (fun _ he => he.elim) ?_
  rw [sys_ret]
  exact hf

end CorrectionOutcome

theorem checkPanicCondition_ret (offsetUs : ℤ) (d : Daemon) :
    (checkPanicCondition offsetUs d).ret =
      decide (Panics d.mode.config.panicThreshold offsetUs) := by
  unfold checkPanicCondition
  by_cases hzero : offsetUs = 0
  · subst hzero
    rw [if_pos rfl, pure_ret, decide_eq_false (not_panics_zero _)]
  · rw [if_neg hzero, bind_ret, modeHandlerGetConfig_run, pure_ret]
    exact decide_eq_decide.mpr Iff.rfl

theorem stepClock_outcome (offsetUs : ℤ) (env : CorrectionEnv) (d : Daemon) :
    CorrectionOutcome (match env.clock with
      | .error _ => none
      | .ok now => stepCall offsetUs now) env (stepClock offsetUs env d) := by
  unfold stepClock
  refine .sys_bind ?_
  cases env.clock with
  | error e => exact .fail
  | ok now =>
    have hover := add_overflows_iff (b := int64 (offsetUs * 1000)) now.inInt64_ns
    have hns : int64 (int64 (now.sec * 1000000000) + now.nsec) = now.ns := rfl
    dsimp only
    unfold stepCall
    rw [hns]
    -- the guards in front of the addition let pass exactly the sums of 64 bits
    by_cases hrange : InInt64 (now.ns + int64 (offsetUs * 1000))
    · obtain ⟨hup, hdown⟩ := not_or.mp (hover.not.mpr (not_not.mpr hrange))
      rw [if_pos hrange, if_neg hup, if_neg hdown]
      refine .sys_bind ⟨rfl, ?_⟩
      rw [int64_eq hrange]
      rfl
    · rw [if_neg hrange]
      rcases hover.mpr hrange with hup | hdown
      · rw [if_pos hup]
        exact .fail
      · split_ifs
        · exact .fail
        · exact .fail

theorem slewClock_outcome (offsetUs : ℤ) (env : CorrectionEnv) (d : Daemon) :
    CorrectionOutcome (some (slewCall offsetUs)) env (slewClock offsetUs env d) := by
  unfold slewClock
  exact .sys_bind ⟨rfl, rfl⟩

/-- A correction makes its call and returns the status of it. -/
theorem applyTimeCorrection_correctionOutcome (caller : CorrectionCaller) (offsetUs : ℤ)
    (env : CorrectionEnv) (d : Daemon) :
    CorrectionOutcome (correctionCall d.mode.config.panicThreshold offsetUs env.clock) env
      (applyTimeCorrectionSlewOrStep caller offsetUs env d) := by
  have hemit : Frame id (fun e => e.clockCall = none)
      (Proc.emit (.applyTimeCorrectionSlewOrStep caller offsetUs) : DProc Unit) := .emit rfl
  unfold applyTimeCorrectionSlewOrStep correctionCall
  refine .frame_bind hemit (fun _ he => he) ?_
  refine .frame_bind (checkPanicCondition_frame offsetUs) (fun _ he => he.clockCall) ?_
  have hstate : (checkPanicCondition offsetUs d).state = d :=
    (checkPanicCondition_frame offsetUs).state d
  rw [emit_state, checkPanicCondition_ret, hstate]
  -- panic, step, slew
  by_cases hpanic : Panics d.mode.config.panicThreshold offsetUs
  · rw [if_pos hpanic, if_pos (decide_eq_true hpanic)]
    exact .fail
  · rw [if_neg hpanic, if_neg (Bool.eq_false_iff.mp (decide_eq_false hpanic))]
    split_ifs
    · exact stepClock_outcome _ _ _
    · exact slewClock_outcome _ _ _

/-! ### Refused corrections -/

/-- The offset is a panic, or the clock has to be stepped and cannot be read or be set. -/
def CorrectionRefused (threshold : UInt16) (offsetUs : ℤ) (clock : Except Errno Timespec) : Prop :=
  |offsetUs| > threshold.toNat * 1000000000 ∨
    |offsetUs| > stepThresholdUs ∧ ∀ now, clock = .ok now → ¬ InInt64 (now.ns + offsetUs * 1000)

theorem abs64_eq {v : ℤ} (h : InInt64 (-v)) : abs64 v = |v| := by
  unfold abs64
  by_cases hv : v < 0
  · rw [if_pos hv, int64_eq h, abs_of_neg hv]
  · rw [if_neg hv, abs_of_nonneg (not_lt.mp hv)]

theorem panics_iff {threshold : UInt16} {offsetUs : ℤ} (h : InInt64 (-offsetUs)) :
    Panics threshold offsetUs ↔ |offsetUs| > threshold.toNat * 1000000000 := by
  unfold Panics
  rw [abs64_eq h]

theorem exceeds_iff_lt_abs (v bound : ℤ) : v > bound ∨ v < -bound ↔ |v| > bound := by
  rw [gt_iff_lt, gt_iff_lt, lt_abs, lt_neg]

/-- A correction makes no call exactly if the offset is a panic, or the clock has to be stepped and
cannot be read or be set. -/
theorem correctionCall_none_iff {threshold : UInt16} {offsetUs : ℤ}
    {clock : Except Errno Timespec} :
    correctionCall threshold offsetUs clock = none ↔ Panics threshold offsetUs ∨
      |offsetUs| > stepThresholdUs ∧
        ∀ now, clock = .ok now → ¬ InInt64 (now.ns + int64 (offsetUs * 1000)) := by
  unfold correctionCall
  rw [← exceeds_iff_lt_abs]
  -- a panic, a step whose time does not fit, or a call
  split_ifs with hpanic hstep
  · exact iff_of_true rfl (.inl hpanic)
  · rw [or_iff_right hpanic, and_iff_right hstep]
    cases clock with
    | error e => exact iff_of_true rfl nofun
    | ok now =>
      dsimp only
      rw [stepCall]
      split_ifs with hrange
      · exact iff_of_false nofun fun hall => hall now rfl hrange
      · refine iff_of_true rfl ?_
        rintro _ ⟨⟩
        exact hrange
  · exact iff_of_false nofun fun hrefused => hrefused.elim hpanic fun h => hstep h.1

/-- A correction makes no call exactly if it is refused. -/
theorem correctionCall_eq_none_iff {threshold : UInt16} {offsetUs : ℤ}
    {clock : Except Errno Timespec} (h : InInt64 (offsetUs * 1000)) :
    correctionCall threshold offsetUs clock = none ↔
      CorrectionRefused threshold offsetUs clock := by
  have hneg : InInt64 (-offsetUs) := by
    unfold InInt64 at *
    omega
  rw [correctionCall_none_iff, CorrectionRefused, panics_iff hneg, int64_eq h]

/-! ### Statuses -/

theorem callStatus_eq_zero_iff {α : Type} (r : Except Errno α) :
    callStatus r = 0 ↔ r.toBool = true := by
  cases r with
  | error e =>
    rw [callStatus_error, toBool_error]
    decide
  | ok a => exact iff_of_true rfl rfl

/-- The call of a correction is answered by the function the offset selects. -/
theorem answer_of_correctionCall {threshold : UInt16} {offsetUs : ℤ} {env : CorrectionEnv}
    {call : ClockCall} (h : correctionCall threshold offsetUs env.clock = some call) :
    env.answer call = if |offsetUs| > stepThresholdUs then env.settime else env.adjtime := by
  unfold correctionCall at h
  split_ifs at h with hpanic hstep
  · -- a step sets the time, and it has read the clock before
    rw [if_pos ((exceeds_iff_lt_abs _ _).mp hstep)]
    cases hclock : env.clock with
    | error e =>
      rw [hclock] at h
      cases h
    | ok now =>
      rw [hclock] at h
      unfold stepCall at h
      dsimp only at h
      split_ifs at h
      cases h
      rfl
  · rw [if_neg fun habs => hstep ((exceeds_iff_lt_abs _ _).mpr habs)]
    cases h
    rfl

end Dntpd

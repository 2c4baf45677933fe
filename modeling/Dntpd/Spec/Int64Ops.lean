import Dntpd.Int64Ops
import Dntpd.Spec.NtpAlgorithms
import Dntpd.Spec.TimeCorrection

/-!
# No 64-bit operation of delays and corrections overflows

Every run of `calculate_delay_offset` is exact, and takes no clamp (`calculateDelayOffset_exact`);
so is every correction by an offset other than the smallest, on a clock whose nanoseconds fit
(`Int64Ops.applyTimeCorrection_exactAs`).
-/

namespace Dntpd

open CInt Proc Int64Trace

/-! ### Delay and offset -/

/-- The nanoseconds of a timestamp, in exact integers. -/
def NtpTimestamp.exactNs (t : NtpTimestamp) : ℤ :=
  ((t.sec.toNat : ℤ) - 2208988800) * 1000000000 + (t.frac.toNat * 1000000000 / 2 ^ 32 : ℕ)

theorem NtpTimestamp.exactNs_bounds (t : NtpTimestamp) :
    -2208988800000000000 ≤ t.exactNs ∧ t.exactNs < 2085978496000000000 := by
  have hbounds := ntpTimestampToNs_bounds t
  rwa [ntpTimestampToNs_eq] at hbounds

namespace Int64Ops

theorem ntpTimestampToNs_exactRun {σ : Type} (t : NtpTimestamp) (s : σ) :
    ExactRun (ntpTimestampToNs t) s t.exactNs s := by
  have hs := t.sec.toNat_lt
  have hf := t.frac.toNat_lt
  have hmax : int64Max.tdiv nsPerSec = 9223372036 := by decide
  have hmin : int64Min.tdiv nsPerSec = -9223372036 := by decide
  unfold ntpTimestampToNs NtpTimestamp.exactNs ntpUnixEpochDelta
  refine .op_bind (by unfold InInt64; omega) ?_
  -- neither clamp is taken
  rw [hmax, hmin]
  refine .ite_neg (by omega) (.ite_neg (by omega) ?_)
  dsimp only
  rw [toNat_frac_ns]
  unfold nsPerSec
  refine .op_bind (by unfold InInt64; omega) ?_
  exact .op (by unfold InInt64; omega)

section

variable (t1 t2 t3 t4 : NtpTimestamp)

/-- The exact delay, in nanoseconds. -/
def delayNs : ℤ := (t4.exactNs - t1.exactNs) - (t3.exactNs - t2.exactNs)

/-- Twice the exact offset, in nanoseconds. -/
def offsetNs2 : ℤ := (t2.exactNs - t1.exactNs) + (t3.exactNs - t4.exactNs)

/-- What the call leaves at its output pointers. -/
def outputs (s : DelayOffset) : DelayOffset :=
  if 0 ≤ delayNs t1 t2 t3 t4 then
    ⟨UInt64.ofNat ((delayNs t1 t2 t3 t4).tdiv 1000).toNat,
      ((offsetNs2 t1 t2 t3 t4).tdiv 2).tdiv 1000⟩
  else s

theorem inInt64_delayNs : InInt64 (delayNs t1 t2 t3 t4) := by
  have h1 := t1.exactNs_bounds
  have h2 := t2.exactNs_bounds
  have h3 := t3.exactNs_bounds
  have h4 := t4.exactNs_bounds
  unfold InInt64 delayNs
  omega

theorem inInt64_offsetNs2 : InInt64 (offsetNs2 t1 t2 t3 t4) := by
  have h1 := t1.exactNs_bounds
  have h2 := t2.exactNs_bounds
  have h3 := t3.exactNs_bounds
  have h4 := t4.exactNs_bounds
  unfold InInt64 offsetNs2
  omega

theorem calculateDelayOffset_exactRun (s : DelayOffset) :
    ExactRun (calculateDelayOffset t1 t2 t3 t4) s (decide (0 ≤ delayNs t1 t2 t3 t4))
      (outputs t1 t2 t3 t4 s) := by
  have h1 := t1.exactNs_bounds
  have h2 := t2.exactNs_bounds
  have h3 := t3.exactNs_bounds
  have h4 := t4.exactNs_bounds
  have hdelay := inInt64_delayNs t1 t2 t3 t4
  have hoffset := inInt64_offsetNs2 t1 t2 t3 t4
  have hhalf := inInt64_tdiv (b := 2) (by decide) hoffset
  unfold calculateDelayOffset
  refine .bind (ntpTimestampToNs_exactRun t1 s) (.bind (ntpTimestampToNs_exactRun t2 s) ?_)
  refine .bind (ntpTimestampToNs_exactRun t3 s) (.bind (ntpTimestampToNs_exactRun t4 s) ?_)
  -- the differences, and what they are added up to
  refine .op_bind (by unfold InInt64; omega) (.op_bind (by unfold InInt64; omega) ?_)
  refine .op_bind hdelay ?_
  refine .op_bind (by unfold InInt64; omega) (.op_bind (by unfold InInt64; omega) ?_)
  refine .op_bind hoffset (.op_bind hhalf ?_)
  unfold outputs
  by_cases hneg : delayNs t1 t2 t3 t4 < 0
  · rw [if_neg (not_le.mpr hneg), decide_eq_false (not_le.mpr hneg)]
    exact .ite_pos hneg .pure
  · rw [if_pos (not_lt.mp hneg), decide_eq_true (not_lt.mp hneg)]
    refine .ite_neg hneg (.op_bind (inInt64_tdiv (by decide) hdelay) (.update_bind ?_))
    exact .op_bind (inInt64_tdiv (by decide) hhalf) (.update_bind .pure)

/-- Without its trace and its pointers the procedure is the function of the model. -/
theorem calculateDelayOffset_model (s : DelayOffset) :
    Dntpd.calculateDelayOffset t1 t2 t3 t4 =
      if (calculateDelayOffset t1 t2 t3 t4 s).ret then
        some ((calculateDelayOffset t1 t2 t3 t4 s).state.delayUs,
          (calculateDelayOffset t1 t2 t3 t4 s).state.offsetUs)
      else none := by
  have hrun := calculateDelayOffset_exactRun t1 t2 t3 t4 s
  have hns : ∀ t : NtpTimestamp, Dntpd.ntpTimestampToNs t = t.exactNs := ntpTimestampToNs_eq
  rw [calculateDelayOffset_eq, hrun.ret, hrun.state, outputs]
  simp only [hns]
  by_cases hneg : delayNs t1 t2 t3 t4 < 0
  · refine (if_pos hneg).trans ?_
    rw [decide_eq_false (not_le.mpr hneg)]
    rfl
  · refine (if_neg hneg).trans ?_
    rw [decide_eq_true (not_lt.mp hneg), if_pos (not_lt.mp hneg)]
    rfl

end

end Int64Ops

/-- **Delay and offset are exact**: no operation overflows and no clamp is taken; the call succeeds
if the exact delay is not negative, and writes it and the exact offset truncated, else nothing. -/
theorem calculateDelayOffset_exact (t1 t2 t3 t4 : NtpTimestamp) (s : Int64Ops.DelayOffset) :
    let o := Int64Ops.calculateDelayOffset t1 t2 t3 t4 s
    let T1 := t1.exactNs
    let T2 := t2.exactNs
    let T3 := t3.exactNs
    let T4 := t4.exactNs
    (∀ op ∈ o.trace, op.Exact) ∧
      (o.ret = true ↔ (T4 - T1) - (T3 - T2) ≥ 0) ∧
      (o.ret = true → (o.state.delayUs.toNat : ℤ) = ((T4 - T1) - (T3 - T2)).tdiv 1000 ∧
        o.state.offsetUs = (((T2 - T1) + (T3 - T4)).tdiv 2).tdiv 1000) ∧
      (o.ret = false → o.state = s) ∧
      calculateDelayOffset t1 t2 t3 t4 =
        if o.ret then some (o.state.delayUs, o.state.offsetUs) else none := by
  intro o T1 T2 T3 T4
  have hrun := Int64Ops.calculateDelayOffset_exactRun t1 t2 t3 t4 s
  have hret : o.ret = decide (0 ≤ Int64Ops.delayNs t1 t2 t3 t4) := hrun.ret
  have hstate : o.state = Int64Ops.outputs t1 t2 t3 t4 s := hrun.state
  have hmodel := Int64Ops.calculateDelayOffset_model t1 t2 t3 t4 s
  refine ⟨hrun.trace, ?_, fun hok => ?_, fun hfail => ?_, hmodel⟩
  · -- the sign of the exact delay decides the result
    rw [hret, decide_eq_true_eq]
    rfl
  · have hdelay : 0 ≤ Int64Ops.delayNs t1 t2 t3 t4 := of_decide_eq_true (hret.symm.trans hok)
    have hbound := Int64Ops.inInt64_delayNs t1 t2 t3 t4
    have hus := Int.tdiv_nonneg hdelay (b := 1000) (by decide)
    have hle := Int.tdiv_le_self 1000 hdelay
    rw [hstate, Int64Ops.outputs, if_pos hdelay]
    refine ⟨?_, rfl⟩
    -- the delay in microseconds fits an unsigned word
    unfold InInt64 at hbound
    rw [UInt64.toNat_ofNat', Nat.mod_eq_of_lt (by omega), Int.toNat_of_nonneg hus]
    rfl
  · have hneg : ¬ 0 ≤ Int64Ops.delayNs t1 t2 t3 t4 := of_decide_eq_false (hret.symm.trans hfail)
    rw [hstate, Int64Ops.outputs, if_neg hneg]

/-! ### Corrections -/

namespace Int64Ops

theorem call_exactAs {α : Type} (r : Except Errno α) (d : Daemon) : ExactAs (call r) (sys r) d := by
  cases r with
  | ok a => exact .pure
  | error e => exact ExactRun.update_bind .pure

theorem splitUnits_exactRun {v unit : ℤ} (hunit : 0 < unit) (hfits : InInt64 unit)
    (hv : InInt64 v) (hlow : int64Min < v) (d : Daemon) :
    ExactRun (splitUnits v unit) d (Dntpd.splitUnits v unit) d := by
  have hquot := inInt64_tdiv hunit hv
  have habs := Int.natAbs_tdiv_le_natAbs v unit
  have hlt := Int.tmod_lt_of_pos v hunit
  have hgt := Int.lt_tmod_of_pos v hunit
  unfold InInt64 int64Min at *
  unfold splitUnits
  refine .op_bind hquot (.op_bind (by unfold InInt64; omega) ?_)
  -- a negative remainder is brought into the range by one unit
  by_cases hneg : v.tmod unit < 0
  · have hsplit : Dntpd.splitUnits v unit = (v.tdiv unit - 1, v.tmod unit + unit) := if_pos hneg
    rw [hsplit]
    refine .ite_pos hneg (.op_bind ?_ (.op_bind ?_ .pure))
    · unfold InInt64
      omega
    · unfold InInt64
      omega
  · have hsplit : Dntpd.splitUnits v unit = (v.tdiv unit, v.tmod unit) := if_neg hneg
    rw [hsplit]
    exact .ite_neg hneg .pure

/-- The offset can be negated, and the threshold in microseconds is one of 46 bits. -/
theorem checkPanicCondition_exactRun {offsetUs : ℤ} (hoffset : InInt64 (-offsetUs)) (d : Daemon) :
    ExactRun (checkPanicCondition offsetUs) d
      (decide (Panics d.mode.config.panicThreshold offsetUs)) d := by
  have hthreshold := d.mode.config.panicThreshold.toNat_lt
  -- the threshold is a word of 16 bits, so its product fits
  have hlimit : InInt64 (d.mode.config.panicThreshold.toNat * 1000000000) := by
    unfold InInt64
    omega
  unfold checkPanicCondition
  by_cases hzero : offsetUs = 0
  · subst hzero
    rw [decide_eq_false (not_panics_zero _)]
    exact .ite_pos rfl .pure
  refine .ite_neg hzero (.read_bind ?_)
  dsimp only
  have hpanics : Panics d.mode.config.panicThreshold offsetUs ↔
      |offsetUs| > d.mode.config.panicThreshold.toNat * 1000000000 := panics_iff hoffset
  -- the negation is the one operation that could overflow
  by_cases hneg : offsetUs < 0
  · rw [abs_of_neg hneg] at hpanics
    rw [decide_eq_decide.mpr hpanics]
    exact .ite_pos hneg (.op_bind hoffset (.op_bind hlimit .pure))
  · rw [abs_of_nonneg (not_lt.mp hneg)] at hpanics
    rw [decide_eq_decide.mpr hpanics]
    exact .ite_neg hneg (.bind .pure (.op_bind hlimit .pure))

theorem sumTooLarge_exactRun {ns offsetNs : ℤ} (hoffset : InInt64 offsetNs) (d : Daemon) :
    ExactRun (sumTooLarge ns offsetNs) d
      (decide (offsetNs > 0 ∧ ns > int64Max - offsetNs)) d := by
  unfold sumTooLarge
  by_cases hpos : offsetNs > 0
  · rw [decide_eq_decide.mpr (and_iff_right hpos)]
    refine .ite_pos hpos (.op_bind ?_ .pure)
    unfold InInt64 int64Max at *
    omega
  · rw [decide_eq_false (mt And.left hpos)]
    exact .ite_neg hpos .pure

theorem sumTooSmall_exactRun {ns offsetNs : ℤ} (hoffset : InInt64 offsetNs) (d : Daemon) :
    ExactRun (sumTooSmall ns offsetNs) d
      (decide (offsetNs < 0 ∧ ns < int64Min - offsetNs)) d := by
  unfold sumTooSmall
  by_cases hneg : offsetNs < 0
  · rw [decide_eq_decide.mpr (and_iff_right hneg)]
    refine .ite_pos hneg (.op_bind ?_ .pure)
    unfold InInt64 int64Min at *
    omega
  · rw [decide_eq_false (mt And.left hneg)]
    exact .ite_neg hneg .pure

theorem stepClock_exactAs {offsetUs : ℤ} {env : CorrectionEnv}
    (hoffset : InInt64 (offsetUs * 1000))
    (hclock : ∀ now, env.clock = .ok now → 0 ≤ now.sec ∧ now.sec ≤ 9223372035)
    (hlow : -70000000000000000 < offsetUs * 1000) (d : Daemon) :
    ExactAs (stepClock offsetUs env) (Dntpd.stepClock offsetUs env) d := by
  unfold stepClock Dntpd.stepClock
  refine .bind (call_exactAs _ _) ?_
  rw [sys_ret]
  cases hread : env.clock with
  | error e => exact .pure
  | ok now =>
    obtain ⟨hsec, hmax⟩ := hclock now hread
    have hnsec := now.nsec_lt
    -- a clock before the year 2262 keeps the products within the word
    have hsecNs : InInt64 (now.sec * 1000000000) := by unfold InInt64; omega
    have hns : InInt64 (now.sec * 1000000000 + now.nsec) := by unfold InInt64; omega
    dsimp only
    rw [int64_eq hoffset, int64_eq hsecNs, int64_eq hns]
    refine .op_bind hoffset (.op_bind hsecNs (.op_bind hns ?_))
    refine .run_bind (sumTooLarge_exactRun hoffset _) ?_
    refine .ite decide_eq_true_iff (fun _ => .pure) fun hlarge => ?_
    refine .run_bind (sumTooSmall_exactRun hoffset _) ?_
    refine .ite decide_eq_true_iff (fun _ => .pure) fun hsmall => ?_
    -- the guards let pass only sums that fit
    have hsum : InInt64 (now.sec * 1000000000 + now.nsec + offsetUs * 1000) := by
      by_contra hover
      exact ((add_overflows_iff hns).mpr hover).elim hlarge hsmall
    rw [int64_eq hsum]
    have hlow : int64Min < now.sec * 1000000000 + now.nsec + offsetUs * 1000 := by
      unfold int64Min
      omega
    refine .op_bind hsum (.run_bind (splitUnits_exactRun (by decide) (by decide) hsum hlow _) ?_)
    refine .bind (call_exactAs _ _) (.emit_bind ?_)
    rw [sys_ret]
    exact .pure

theorem slewClock_exactAs {offsetUs : ℤ} (hoffset : |offsetUs| ≤ stepThresholdUs)
    (env : CorrectionEnv) (d : Daemon) :
    ExactAs (slewClock offsetUs env) (Dntpd.slewClock offsetUs env) d := by
  obtain ⟨hlow, hhigh⟩ := abs_le.mp hoffset
  unfold stepThresholdUs at hlow hhigh
  unfold slewClock Dntpd.slewClock
  refine .run_bind (splitUnits_exactRun (by decide) (by decide) ?_ ?_ d) ?_
  · unfold InInt64
    omega
  · unfold int64Min
    omega
  refine .bind (call_exactAs _ _) (.emit_bind ?_)
  rw [sys_ret]
  exact .pure

/-- An offset that is no panic fits 64 bits in nanoseconds. -/
theorem inInt64_of_not_panics {threshold : UInt16} {offsetUs : ℤ} (hoffset : InInt64 (-offsetUs))
    (hpanic : ¬ Panics threshold offsetUs) :
    InInt64 (offsetUs * 1000) ∧ -70000000000000000 < offsetUs * 1000 := by
  have hthreshold := threshold.toNat_lt
  rw [panics_iff hoffset, not_lt, abs_le] at hpanic
  unfold InInt64
  omega

/-- A correction by an offset that can be negated is exact on every clock whose nanoseconds fit. -/
theorem applyTimeCorrection_exactAs (caller : CorrectionCaller) {offsetUs : ℤ}
    {env : CorrectionEnv} (hoffset : InInt64 offsetUs) (hmin : offsetUs ≠ int64Min)
    (hclock : ∀ now, env.clock = .ok now → 0 ≤ now.sec ∧ now.sec ≤ 9223372035) (d : Daemon) :
    ExactAs (applyTimeCorrectionSlewOrStep offsetUs env)
      (Dntpd.applyTimeCorrectionSlewOrStep caller offsetUs env) d := by
  have hneg : InInt64 (-offsetUs) := by
    unfold InInt64 int64Min at *
    omega
  unfold applyTimeCorrectionSlewOrStep Dntpd.applyTimeCorrectionSlewOrStep
  refine .emit_bind ?_
  have hpanic : ExactAs (checkPanicCondition offsetUs) (Dntpd.checkPanicCondition offsetUs) d := by
    have hstate : (Dntpd.checkPanicCondition offsetUs d).state = d :=
      (checkPanicCondition_frame offsetUs).state d
    unfold ExactAs
    rw [checkPanicCondition_ret, hstate]
    exact checkPanicCondition_exactRun hneg d
  refine .bind hpanic ?_
  rw [checkPanicCondition_ret]
  -- a panic ends it, otherwise the size of the offset decides between a step and a slew
  refine .ite Iff.rfl (fun _ => ?_) fun hcalm => ?_
  · exact .op_bind (inInt64_tdiv (by decide) hoffset) .pure
  have hcalm : ¬ Panics d.mode.config.panicThreshold offsetUs := by
    rwa [decide_eq_true_eq] at hcalm
  obtain ⟨hns, hlow⟩ := inInt64_of_not_panics hneg hcalm
  refine .ite Iff.rfl (fun _ => ?_) fun hsmall => ?_
  · exact stepClock_exactAs hns hclock hlow _
  · exact slewClock_exactAs (not_lt.mp (mt (exceeds_iff_lt_abs _ _).mpr hsmall)) env _

end Int64Ops

end Dntpd

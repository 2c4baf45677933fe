import Dntpd.FreqDiscipline
import Mathlib.Algebra.Order.Field.Basic
import Mathlib.Tactic.NormNum
import Mathlib.Tactic.Ring
import Mathlib.Tactic.SplitIfs

/-!
# The unit of the frequency

`calculate_fll_ppm` divides seconds by seconds, which is a frequency and not its millionth part, and
`calculate_frequency_ppm` beside it multiplies by a million.  So the first is the millionth part of
what it stands for (`calculateFllPpm_eq`), unless both are 0 or clamped (`fllInPpm_iff`).
-/

namespace Dntpd

/-! ### Clamping -/

theorem clampFrequency_of_nonneg {ppm : ℚ} (h : 0 ≤ ppm) : clampFrequency ppm = min ppm 128 := by
  unfold clampFrequency freqOffsetMaxPpm
  split_ifs with hhigh hlow
  · exact (min_eq_right hhigh.le).symm
  · exact absurd h (not_le.mpr (hlow.trans (by decide)))
  · exact (min_eq_left (not_lt.mp hhigh)).symm

theorem clampFrequency_neg (ppm : ℚ) : clampFrequency (-ppm) = -clampFrequency ppm := by
  unfold clampFrequency freqOffsetMaxPpm
  by_cases hhigh : 128 < ppm
  · have hlow : ¬ -ppm > 128 := by
      have hneg : -ppm < -128 := neg_lt_neg hhigh
      exact not_lt.mpr (hneg.le.trans (by decide))
    rw [if_pos hhigh, if_neg hlow, if_pos (neg_lt_neg hhigh)]
  · rw [if_neg (c := ppm > 128) hhigh]
    by_cases hlow : ppm < -128
    · rw [if_pos hlow, if_pos (lt_neg_of_lt_neg hlow), neg_neg]
    · rw [if_neg hlow, if_neg (fun h => hlow (lt_neg_of_lt_neg h)),
        if_neg (fun h => hhigh (neg_lt_neg_iff.mp h))]

/-- A part of a frequency is clamped to what the whole is, if there is none or both are clamped. -/
theorem clampFrequency_div_eq_iff {ppm k : ℚ} (hk : 1 < k) :
    clampFrequency (ppm / k) = clampFrequency ppm ↔ ppm = 0 ∨ 128 * k ≤ |ppm| := by
  have hpos : 0 < k := zero_lt_one.trans hk
  -- both sides are odd in `ppm`
  wlog hsign : 0 ≤ ppm generalizing ppm
  · have hneg := this (neg_nonneg.mpr (not_le.mp hsign).le)
    rw [neg_div, clampFrequency_neg, clampFrequency_neg, neg_inj, neg_eq_zero, abs_neg] at hneg
    exact hneg
  rw [clampFrequency_of_nonneg hsign, clampFrequency_of_nonneg (div_nonneg hsign hpos.le),
    abs_of_nonneg hsign]
  have hle : ppm / k ≤ ppm := div_le_self hsign hk.le
  constructor
  · intro h
    by_contra hnot
    -- below the bound the division shows, whether or not `ppm` itself is clamped
    obtain ⟨hzero, hbelow⟩ := not_or.mp hnot
    have hpart : ppm / k < 128 := (div_lt_iff₀ hpos).mpr (not_le.mp hbelow)
    have hless : ppm / k < ppm := div_lt_self (lt_of_le_of_ne hsign (Ne.symm hzero)) hk
    rw [min_eq_left hpart.le] at h
    exact absurd h (lt_min hless hpart).ne
  · rintro (rfl | hclamped)
    · rw [zero_div]
    · have hpart : 128 ≤ ppm / k := (le_div_iff₀ hpos).mpr hclamped
      rw [min_eq_right hpart, min_eq_right (hpart.trans hle)]

/-! ### The two frequencies -/

section

variable (offsetUs : ℤ) {deltaSec pollExp : ℤ}

/-- Microseconds per second. -/
theorem frequencyPpm_eq (deltaSec : ℤ) : frequencyPpm offsetUs deltaSec = offsetUs / deltaSec := by
  unfold frequencyPpm
  ring

/-- Behind the Allan intercept the value is the millionth part of the averaged frequency. -/
theorem calculateFllPpm_eq (hdelta : 1500 ≤ deltaSec) (hpoll : pollExp ≤ 14) :
    calculateFllPpm offsetUs deltaSec pollExp =
      clampFrequency ((offsetUs : ℚ) / deltaSec / (18 - pollExp : ℤ) / 1000000) := by
  have hmax : max (deltaSec : ℚ) clockAllanIntercept = deltaSec :=
    max_eq_left (Int.cast_le.mpr hdelta)
  have hfactor :
      (if maxpoll + 1 - pollExp < 4 then 4 else maxpoll + 1 - pollExp) = 18 - pollExp := by
    unfold maxpoll
    rw [if_neg (by omega)]
    omega
  have hpositive : 0 < (deltaSec : ℚ) * (18 - pollExp : ℤ) :=
    mul_pos (Int.cast_pos.mpr (by omega)) (Int.cast_pos.mpr (by omega))
  unfold calculateFllPpm
  rw [if_neg (by omega)]
  dsimp only
  rw [hmax, hfactor, if_neg (not_le.mpr hpositive)]
  congr 1
  ring

end

/-- The value is the frequency in parts per million: what `calculate_frequency_ppm` clamps, divided
by the averaging factor and then clamped. -/
structure FllInPpm (offsetUs deltaSec pollExp : ℤ) : Prop where
  value : calculateFllPpm offsetUs deltaSec pollExp =
    clampFrequency (frequencyPpm offsetUs deltaSec / (18 - pollExp : ℤ))
  frequency : frequencyPpm offsetUs deltaSec = offsetUs / deltaSec

/-- **The value is in parts per million** exactly if there is no offset, or one that is clamped even
after the division by a million. -/
theorem fllInPpm_iff (offsetUs : ℤ) {deltaSec pollExp : ℤ} (hdelta : 1500 ≤ deltaSec)
    (hlow : 4 ≤ pollExp) (hhigh : pollExp ≤ 12) :
    FllInPpm offsetUs deltaSec pollExp ↔
      offsetUs = 0 ∨ 128 * 1000000 * (deltaSec * (18 - pollExp)) ≤ |offsetUs| := by
  have hpositive : 0 < deltaSec * (18 - pollExp) := mul_pos (by omega) (by omega)
  have hpositive' : (0 : ℚ) < (deltaSec * (18 - pollExp) : ℤ) := Int.cast_pos.mpr hpositive
  have hquotient : (offsetUs : ℚ) / deltaSec / (18 - pollExp : ℤ) =
      offsetUs / (deltaSec * (18 - pollExp) : ℤ) := by
    rw [div_div, Int.cast_mul]
  have hvalue : FllInPpm offsetUs deltaSec pollExp ↔
      clampFrequency ((offsetUs : ℚ) / (deltaSec * (18 - pollExp) : ℤ) / 1000000) =
        clampFrequency ((offsetUs : ℚ) / (deltaSec * (18 - pollExp) : ℤ)) := by
    rw [← hquotient, ← calculateFllPpm_eq offsetUs hdelta (by omega), ← frequencyPpm_eq]
    exact ⟨fun h => h.value, fun h => ⟨h, frequencyPpm_eq offsetUs deltaSec⟩⟩
  rw [hvalue, clampFrequency_div_eq_iff (by norm_num), div_eq_zero_iff, abs_div,
    abs_of_pos hpositive', le_div_iff₀ hpositive', Int.cast_eq_zero,
    or_iff_left hpositive'.ne', ← Int.cast_abs]
  exact or_congr_right (by norm_cast)

/-- An offset of 2304000 s is clamped either way. -/
theorem fllInPpm_clamped : FllInPpm 2304000000000 1500 6 :=
  (fllInPpm_iff 2304000000000 (by decide) (by decide) (by decide)).mpr (.inr (by decide))

/-- 1.8 s in 1500 s are 1200 ppm, averaged 100, of which the value is the millionth part. -/
theorem not_fllInPpm_offset :
    calculateFllPpm 1800000 1500 6 = 1 / 10000 ∧
      clampFrequency (frequencyPpm 1800000 1500 / (18 - 6 : ℤ)) = 100 ∧
      ¬ FllInPpm 1800000 1500 6 := by
  have hvalue : calculateFllPpm 1800000 1500 6 = 1 / 10000 := by
    rw [calculateFllPpm_eq 1800000 (by decide) (by decide), clampFrequency_of_nonneg (by norm_num)]
    norm_num
  have hppm : clampFrequency (frequencyPpm 1800000 1500 / (18 - 6 : ℤ)) = 100 := by
    rw [frequencyPpm_eq, clampFrequency_of_nonneg (by norm_num)]
    norm_num
  refine ⟨hvalue, hppm, fun h => ?_⟩
  exact absurd (hvalue.symm.trans (h.value.trans hppm)) (by norm_num)

end Dntpd

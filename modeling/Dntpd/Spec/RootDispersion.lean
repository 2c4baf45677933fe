import Dntpd.Initial
import Dntpd.Spec.NtpAlgorithms
import Dntpd.TimeSync
import Mathlib.Tactic.IntervalCases

/-!
# How the root dispersion grows

`update_root_dispersion` divides the 15 microseconds of each second by a million, as for seconds,
and adds the quotient to microseconds (`updateRootDispersion_ret`).  So the dispersion grows with
the time exactly where that makes no difference in the short format, which counts in ticks of about
15.26 microseconds (`dispersionGrows_iff`).
-/

namespace Dntpd

open Proc CInt

/-! ### What the function computes -/

/-- The microseconds it converts. -/
def dispersionUs (elapsedSec offsetUs jitterUs : ℕ) : ℕ :=
  min 4294967295 (offsetUs + jitterUs + 15 * elapsedSec / 1000000)

section

variable {offsetUs jitterUs : UInt64}

theorem trunc_newDispersion (elapsedSec : ℕ) (hoffset : offsetUs.toNat ≤ 4294967295) :
    trunc (newDispersion elapsedSec offsetUs jitterUs) =
      dispersionUs elapsedSec offsetUs.toNat jitterUs.toNat := by
  have hclamp : ¬ offsetUs > 4294967295 := by
    rw [gt_iff_lt, UInt64.lt_iff_toNat_lt]
    exact not_lt.mpr hoffset
  have hphi : phi * ((elapsedSec : ℤ) : ℚ) / 1000000 =
      ((15 * elapsedSec : ℕ) : ℚ) / (1000000 : ℕ) := by
    unfold phi
    push_cast
    rfl
  have hfloor := Rat.floor_natCast_div_natCast (15 * elapsedSec) 1000000
  have hnonneg : 0 ≤ ((15 * elapsedSec : ℕ) : ℚ) / (1000000 : ℕ) :=
    div_nonneg (Nat.cast_nonneg _) (Nat.cast_nonneg _)
  unfold newDispersion dispersionUs
  dsimp only
  rw [if_neg (by omega : ¬ (elapsedSec : ℤ) < 0), if_neg hclamp, hphi]
  set q := ((15 * elapsedSec : ℕ) : ℚ) / (1000000 : ℕ)
  -- the sum is clamped, or it is truncated to whole microseconds
  by_cases hfull : q > 4294967295 - (offsetUs.toNat : ℚ) - jitterUs.toNat
  · have hle : (4294967295 - offsetUs.toNat - jitterUs.toNat : ℤ) ≤ ⌊q⌋ := by
      rw [Int.le_floor]
      push_cast
      exact hfull.le
    rw [if_pos hfull, trunc_of_nonneg (by decide), min_eq_left (by omega)]
    rfl
  · have hle : ⌊q⌋ ≤ (4294967295 - offsetUs.toNat - jitterUs.toNat : ℤ) := by
      rw [← Int.cast_le (R := ℚ)]
      push_cast
      exact (Int.floor_le q).trans (not_lt.mp hfull)
    rw [if_neg hfull, trunc_of_nonneg (by positivity), Int.floor_add_natCast, Int.floor_add_natCast,
      min_eq_right (by omega)]
    omega

/-- A call `elapsedSec` seconds after the one before it. -/
theorem updateRootDispersion_ret (currentDisp : UInt32) (elapsedSec : ℕ)
    (hoffset : offsetUs.toNat ≤ 4294967295) {d : Daemon} (hlast : d.g.lastDispersionUpdate ≠ 0) :
    (updateRootDispersion currentDisp offsetUs jitterUs (d.g.lastDispersionUpdate + elapsedSec)
      d).ret =
        ntpU16_16FromUs (UInt64.ofNat (dispersionUs elapsedSec offsetUs.toNat jitterUs.toNat)) := by
  have hlater : ∀ now, (updateRootDispersion currentDisp offsetUs jitterUs now d).ret =
      ntpU16_16FromUs (UInt64.ofInt
        (trunc (newDispersion (now - d.g.lastDispersionUpdate) offsetUs jitterUs))) := by
    intro now
    unfold updateRootDispersion lock unlock
    simp [hlast]
  have hfits : dispersionUs elapsedSec offsetUs.toNat jitterUs.toNat ≤ 4294967295 := min_le_left _ _
  rw [hlater, add_sub_cancel_left, trunc_newDispersion elapsedSec hoffset, UInt64.ofInt,
    Int.emod_eq_of_lt (by omega) (by omega), Int.toNat_natCast]

end

/-! ### Ticks of the short format -/

/-- The ticks that the short format has for as many microseconds. -/
theorem toNat_ntpU16_16FromUs_ofNat {us : ℕ} (h : us ≤ 4294967295) :
    (ntpU16_16FromUs (UInt64.ofNat us)).toNat = us * 65536 / 1000000 := by
  have hus : (UInt64.ofNat us).toNat = us := Nat.mod_eq_of_lt (by omega)
  rw [toNat_ntpU16_16FromUs (by rw [hus]; exact h), hus]

theorem ntpU16_16FromUs_mono {us us' : ℕ} (h : us ≤ us') (h' : us' ≤ 4294967295) :
    ntpU16_16FromUs (UInt64.ofNat us) ≤ ntpU16_16FromUs (UInt64.ofNat us') := by
  rw [UInt32.le_iff_toNat_le, toNat_ntpU16_16FromUs_ofNat (h.trans h'),
    toNat_ntpU16_16FromUs_ofNat h']
  exact Nat.div_le_div_right (Nat.mul_le_mul_right 65536 h)

/-- The elapsed time makes no difference: there is none, or one second that ends in the tick it
starts in, or the sum is in the last tick. -/
def ElapsedHidden (elapsedSec sumUs : ℕ) : Prop :=
  elapsedSec = 0 ∨ (elapsedSec = 1 ∧ sumUs * 65536 % 1000000 < 16960) ∨
    4294967286 ≤ sumUs + 15 * elapsedSec / 1000000

/-- 15 microseconds more are the same tick, if the 16960 millionths that a tick is longer are not
used up. -/
theorem ticks_one_eq_iff (sumUs : ℕ) :
    sumUs * 65536 / 1000000 = (15 + sumUs) * 65536 / 1000000 ↔ sumUs * 65536 % 1000000 < 16960 := by
  have hsplit : (15 + sumUs) * 65536 = sumUs * 65536 + 983040 := by ring
  rw [hsplit]
  generalize sumUs * 65536 = ticks
  constructor
  · intro hsame
    omega
  · intro hroom
    omega

/-- Two seconds are more than a tick. -/
theorem ticks_eq_iff (elapsedSec sumUs : ℕ) :
    min 4294967295 (sumUs + 15 * elapsedSec / 1000000) * 65536 / 1000000 =
        min 4294967295 (15 * elapsedSec + sumUs) * 65536 / 1000000 ↔
      ElapsedHidden elapsedSec sumUs := by
  unfold ElapsedHidden
  rcases Nat.lt_or_ge elapsedSec 2 with hfew | hmany
  · rcases Nat.eq_zero_or_pos elapsedSec with rfl | hpos
    · omega
    · obtain rfl : elapsedSec = 1 := by omega
      rcases Nat.lt_or_ge sumUs 4294967281 with hroom | hfull
      · have hone := ticks_one_eq_iff sumUs
        rw [min_eq_right (by omega), min_eq_right (by omega), Nat.mul_one]
        omega
      · -- the sum is full, up to the last tick or the one before it
        rw [min_eq_left (by omega : 4294967295 ≤ 15 * 1 + sumUs)]
        rcases Nat.lt_or_ge sumUs 4294967286 with hlast | hlast
        · interval_cases sumUs <;> decide
        · omega
  · have hquotient : 15 * elapsedSec / 1000000 * 1000000 ≤ 15 * elapsedSec :=
      Nat.div_mul_le_self _ _
    omega

/-! ### Growth -/

/-- The dispersion of the offset, the jitter and 15 microseconds for each second. -/
def grownDispersion (elapsedSec : ℕ) (offsetUs jitterUs : UInt64) : UInt32 :=
  ntpU16_16FromUs
    (UInt64.ofNat (min 4294967295 (15 * elapsedSec + offsetUs.toNat + jitterUs.toNat)))

/-- The dispersion of a call `elapsedSec` seconds after the one before it is the grown one, hence it
is at least 15 parts per million of the time and no smaller than after a shorter time. -/
structure DispersionGrows (currentDisp : UInt32) (offsetUs jitterUs : UInt64) (elapsedSec : ℕ)
    (d : Daemon) : Prop where
  value : (updateRootDispersion currentDisp offsetUs jitterUs
    (d.g.lastDispersionUpdate + elapsedSec) d).ret = grownDispersion elapsedSec offsetUs jitterUs
  lower : grownDispersion elapsedSec 0 0 ≤ (updateRootDispersion currentDisp offsetUs jitterUs
    (d.g.lastDispersionUpdate + elapsedSec) d).ret
  monotone : ∀ elapsedSec' ≤ elapsedSec,
    (updateRootDispersion currentDisp offsetUs jitterUs (d.g.lastDispersionUpdate + elapsedSec')
      d).ret ≤
    (updateRootDispersion currentDisp offsetUs jitterUs (d.g.lastDispersionUpdate + elapsedSec)
      d).ret

/-- **The dispersion grows with the time** exactly where the elapsed time makes no difference. -/
theorem dispersionGrows_iff (currentDisp : UInt32) {offsetUs jitterUs : UInt64} (elapsedSec : ℕ)
    (hoffset : offsetUs < 4294967296) {d : Daemon} (hlast : d.g.lastDispersionUpdate ≠ 0) :
    DispersionGrows currentDisp offsetUs jitterUs elapsedSec d ↔
      ElapsedHidden elapsedSec (offsetUs.toNat + jitterUs.toNat) := by
  have hoffset' : offsetUs.toNat ≤ 4294967295 := Nat.lt_succ_iff.mp hoffset
  have hret : ∀ e : ℕ, (updateRootDispersion currentDisp offsetUs jitterUs
      (d.g.lastDispersionUpdate + e) d).ret =
        ntpU16_16FromUs (UInt64.ofNat (dispersionUs e offsetUs.toNat jitterUs.toNat)) := fun e =>
    updateRootDispersion_ret currentDisp e hoffset' hlast
  have hfits : dispersionUs elapsedSec offsetUs.toNat jitterUs.toNat ≤ 4294967295 := min_le_left _ _
  -- the value in ticks hides the elapsed time up to the next tick
  have hvalue : (updateRootDispersion currentDisp offsetUs jitterUs
      (d.g.lastDispersionUpdate + elapsedSec) d).ret =
        grownDispersion elapsedSec offsetUs jitterUs ↔
      ElapsedHidden elapsedSec (offsetUs.toNat + jitterUs.toNat) := by
    rw [hret, grownDispersion, ← UInt32.toNat_inj, toNat_ntpU16_16FromUs_ofNat hfits,
      toNat_ntpU16_16FromUs_ofNat (min_le_left _ _), dispersionUs, add_assoc (15 * elapsedSec)]
    exact ticks_eq_iff elapsedSec (offsetUs.toNat + jitterUs.toNat)
  refine ⟨fun h => hvalue.mp h.value, fun h => ⟨hvalue.mpr h, ?_, fun e he => ?_⟩⟩
  · -- both clauses on the order follow from the sum being monotone
    rw [hvalue.mpr h]
    refine ntpU16_16FromUs_mono (min_le_min_left _ ?_) (min_le_left _ _)
    exact (Nat.le_add_right _ _).trans (Nat.le_add_right _ _)
  · rw [hret, hret]
    refine ntpU16_16FromUs_mono (min_le_min_left _ ?_) hfits
    exact Nat.add_le_add_left (Nat.div_le_div_right (Nat.mul_le_mul_left 15 he)) _

/-- A daemon that updated the dispersion at that time. -/
def updatedAt (time : ℤ) : Daemon :=
  { Daemon.init with g := { Globals.init with lastDispersionUpdate := time } }

/-- 46 microseconds and the 15 of a second are in one tick. -/
theorem dispersionGrows_second : DispersionGrows 0 40 6 1 (updatedAt 1700000000) :=
  (dispersionGrows_iff 0 1 (by decide) (by decide)).mpr (.inr (.inl ⟨rfl, by decide⟩))

/-- An hour later the dispersion is that of the offset and the jitter alone, and not 54 ms more. -/
theorem not_dispersionGrows_hour :
    (updateRootDispersion 0 100 50 1700003600 (updatedAt 1700000000)).ret = 9 ∧
      grownDispersion 3600 100 50 = 3548 ∧
      ¬ DispersionGrows 0 100 50 3600 (updatedAt 1700000000) := by
  have hret : (updateRootDispersion 0 100 50
      ((updatedAt 1700000000).g.lastDispersionUpdate + (3600 : ℕ)) (updatedAt 1700000000)).ret =
        9 := by
    rw [updateRootDispersion_ret 0 3600 (by decide) (by decide)]
    decide
  refine ⟨hret, by decide, fun h => ?_⟩
  exact absurd (hret.symm.trans h.value) (by decide)

end Dntpd

import Dntpd.NtpAlgorithms
import Mathlib.Algebra.Order.Group.Abs
import Mathlib.Algebra.Order.Ring.Int

/-!
# The on-wire formulas are exact

No timestamp is clamped and no `int64_t` operation overflows (`ntpTimestampToNs_eq`,
`calculateDelayOffset_eq`): the seconds of an NTP timestamp lie within 2^32 s of the Unix epoch,
so every sum of four of them in nanoseconds fits.  The accuracy theorem of the exchange
(`calculateDelayOffset_accuracy`) is then a statement about truncating division: the computed
offset is within half the round trip of the true one, whatever the asymmetry of the path.
-/

namespace Dntpd

open CInt

/-! ### Timestamps -/

/-- The fraction in nanoseconds. -/
theorem toNat_frac_ns (f : UInt32) :
    ((f.toUInt64 * 1000000000) >>> 32).toNat = f.toNat * 1000000000 / 4294967296 := by
  have hf := f.toNat_lt
  rw [UInt64.toNat_shiftRight, UInt64.toNat_mul, UInt32.toNat_toUInt64]
  have hc : (1000000000 : UInt64).toNat = 1000000000 := rfl
  have hs : (32 : UInt64).toNat % 64 = 32 := rfl
  rw [hc, hs, Nat.shiftRight_eq_div_pow]
  omega

/-- Neither clamp is taken and nothing overflows. -/
theorem ntpTimestampToNs_eq (t : NtpTimestamp) :
    ntpTimestampToNs t = ((t.sec.toNat : ℤ) - 2208988800) * 1000000000
      + (t.frac.toNat * 1000000000 / 4294967296 : ℕ) := by
  have hs := t.sec.toNat_lt
  have hf := t.frac.toNat_lt
  unfold ntpTimestampToNs ntpUnixEpochDelta nsPerSec
  rw [int64_eq (x := (t.sec.toNat : ℤ) - 2208988800) (by unfold InInt64; omega)]
  have hmax : int64Max.tdiv 1000000000 = 9223372036 := by decide
  have hmin : int64Min.tdiv 1000000000 = -9223372036 := by decide
  rw [hmax, hmin]
  dsimp only
  rw [if_neg (by omega), if_neg (by omega), toNat_frac_ns,
    int64_eq (x := ((t.sec.toNat : ℤ) - 2208988800) * 1000000000) (by unfold InInt64; omega)]
  exact int64_eq (by unfold InInt64; omega)

/-- The range of the converted timestamps. -/
theorem ntpTimestampToNs_bounds (t : NtpTimestamp) :
    -2208988800000000000 ≤ ntpTimestampToNs t ∧ ntpTimestampToNs t < 2085978496000000000 := by
  have hs := t.sec.toNat_lt
  have hf := t.frac.toNat_lt
  rw [ntpTimestampToNs_eq]
  constructor <;> omega

/-! ### Delay and offset -/

/-- `calculate_delay_offset` in exact integer arithmetic. -/
theorem calculateDelayOffset_eq (t1 t2 t3 t4 : NtpTimestamp) :
    calculateDelayOffset t1 t2 t3 t4 =
      (let T1 := ntpTimestampToNs t1
       let T2 := ntpTimestampToNs t2
       let T3 := ntpTimestampToNs t3
       let T4 := ntpTimestampToNs t4
       if (T4 - T1) - (T3 - T2) < 0 then none
       else some (UInt64.ofNat (((T4 - T1) - (T3 - T2)).tdiv 1000).toNat,
        (((T2 - T1) + (T3 - T4)).tdiv 2).tdiv 1000)) := by
  -- the readings lie in one era, so no difference overflows
  have h1 := ntpTimestampToNs_bounds t1
  have h2 := ntpTimestampToNs_bounds t2
  have h3 := ntpTimestampToNs_bounds t3
  have h4 := ntpTimestampToNs_bounds t4
  unfold calculateDelayOffset
  dsimp only
  rw [int64_eq (x := ntpTimestampToNs t4 - ntpTimestampToNs t1) (by unfold InInt64; omega),
    int64_eq (x := ntpTimestampToNs t3 - ntpTimestampToNs t2) (by unfold InInt64; omega),
    int64_eq (x := ntpTimestampToNs t2 - ntpTimestampToNs t1) (by unfold InInt64; omega),
    int64_eq (x := ntpTimestampToNs t3 - ntpTimestampToNs t4) (by unfold InInt64; omega),
    int64_eq (by unfold InInt64; omega), int64_eq (by unfold InInt64; omega)]

/-- **On-wire accuracy**: for a server clock `θ` ahead of the client's, one-way delays `d1`, `d2`
and a processing time `p`, the reported delay is the round trip and the reported offset is within
half of it (and the truncation) of `θ`. -/
theorem calculateDelayOffset_accuracy (t1 t2 t3 t4 : NtpTimestamp) (θ d1 d2 p : ℤ)
    (hd1 : 0 ≤ d1) (hd2 : 0 ≤ d2)
    (h2 : ntpTimestampToNs t2 = ntpTimestampToNs t1 + d1 + θ)
    (h3 : ntpTimestampToNs t3 = ntpTimestampToNs t2 + p)
    (h4 : ntpTimestampToNs t4 = ntpTimestampToNs t1 + d1 + p + d2) :
    ∃ delayUs offsetUs, calculateDelayOffset t1 t2 t3 t4 = some (delayUs, offsetUs) ∧
      (delayUs.toNat : ℤ) = (d1 + d2) / 1000 ∧
      |1000 * offsetUs - θ| ≤ 500 * (delayUs.toNat : ℤ) + 1500 := by
  have hb1 := ntpTimestampToNs_bounds t1
  have hb4 := ntpTimestampToNs_bounds t4
  have hb2 := ntpTimestampToNs_bounds t2
  have hb3 := ntpTimestampToNs_bounds t3
  have hdelay : (ntpTimestampToNs t4 - ntpTimestampToNs t1)
      - (ntpTimestampToNs t3 - ntpTimestampToNs t2) = d1 + d2 := by omega
  have hoffset : (ntpTimestampToNs t2 - ntpTimestampToNs t1)
      + (ntpTimestampToNs t3 - ntpTimestampToNs t4) = 2 * θ + (d1 - d2) := by omega
  -- what is computed from the timestamps depends on `θ` and on the two delays alone
  rw [calculateDelayOffset_eq]
  dsimp only
  rw [hdelay, hoffset, if_neg (by omega)]
  refine ⟨_, _, rfl, ?_⟩
  have hnat : (UInt64.ofNat ((d1 + d2).tdiv 1000).toNat).toNat = ((d1 + d2) / 1000).toNat := by
    rw [Int.tdiv_eq_ediv_of_nonneg (by omega), UInt64.toNat_ofNat']
    omega
  rw [hnat]
  refine ⟨by omega, ?_⟩
  -- half the difference of the one-way delays is at most half their sum
  have hhalf := tdiv_bounds (2 * θ + (d1 - d2)) (b := 2) (by decide)
  have hmicro := tdiv_bounds ((2 * θ + (d1 - d2)).tdiv 2) (b := 1000) (by decide)
  rw [abs_le]
  constructor <;> omega

/-- Half a second out of step over a path of half a second each way. -/
theorem calculateDelayOffset_accuracy_symmetric :
    ∃ delayUs offsetUs,
      calculateDelayOffset ⟨2208988800, 0⟩ ⟨2208988801, 0⟩ ⟨2208988801, 0⟩ ⟨2208988801, 0⟩
        = some (delayUs, offsetUs) ∧
      (delayUs.toNat : ℤ) = (500000000 + 500000000) / 1000 ∧
      |1000 * offsetUs - 500000000| ≤ 500 * (delayUs.toNat : ℤ) + 1500 :=
  calculateDelayOffset_accuracy _ _ _ _ 500000000 500000000 500000000 0 (by decide) (by decide)
    (by decide) (by decide) (by decide)

/-! ### Stratum -/

/-- The stratum a client of a peer of stratum 1 to 15 takes lies in 2 to 15. -/
theorem ntpLocalStratumFromPeer_mem {s : UInt8} (h0 : s ≠ 0) (h15 : ¬ s > 15) :
    2 ≤ ntpLocalStratumFromPeer s ∧ ntpLocalStratumFromPeer s ≤ 15 := by
  unfold ntpLocalStratumFromPeer
  rw [if_neg (by simp [h0, h15])]
  have hpos : 0 < s.toNat := Nat.pos_of_ne_zero fun h => h0 (UInt8.toNat_inj.mp h)
  have hle : s.toNat ≤ 15 := by
    simpa [UInt8.lt_iff_toNat_lt] using h15
  dsimp only
  -- one more than the stratum, but at most 15
  split_ifs with hs
  · decide
  · have hsum : (s.toUInt16 + 1).toNat = s.toNat + 1 := by
      rw [UInt16.toNat_add, UInt8.toNat_toUInt16]
      exact Nat.mod_eq_of_lt (by simp; omega)
    have hs' : (s.toUInt16 + 1).toNat ≤ 15 := by simpa [UInt16.lt_iff_toNat_lt] using hs
    rw [UInt8.le_iff_toNat_le, UInt8.le_iff_toNat_le, UInt16.toNat_toUInt8, hsum]
    constructor
    · show 2 ≤ (s.toNat + 1) % 256
      omega
    · show (s.toNat + 1) % 256 ≤ 15
      omega

/-! ### The short format -/

/-- Microseconds of 32 bits are converted without saturation. -/
theorem toNat_ntpU16_16FromUs {us : UInt64} (h : us.toNat ≤ 4294967295) :
    (ntpU16_16FromUs us).toNat = us.toNat * 65536 / 1000000 := by
  have hvalue : ((us * 65536) / 1000000).toNat = us.toNat * 65536 / 1000000 := by
    rw [UInt64.toNat_div, UInt64.toNat_mul]
    have hlt : us.toNat * 65536 < 2 ^ 64 := by omega
    exact congrArg (· / 1000000) (Nat.mod_eq_of_lt hlt)
  -- neither of the two saturations happens
  have hsmall : ¬ us > 18446744073709551615 / 65536 := by
    rw [gt_iff_lt, UInt64.lt_iff_toNat_lt]
    have hbound : (18446744073709551615 / 65536 : UInt64).toNat = 281474976710655 := by decide
    omega
  have hrange : ¬ (us * 65536) / 1000000 > 4294967295 := by
    rw [gt_iff_lt, UInt64.lt_iff_toNat_lt, hvalue]
    have hbound : (4294967295 : UInt64).toNat = 4294967295 := rfl
    omega
  unfold ntpU16_16FromUs
  dsimp only
  rw [if_neg hsmall, if_neg hrange, UInt64.toNat_toUInt32, hvalue]
  omega

end Dntpd

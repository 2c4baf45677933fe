import Dntpd.Spec.NtpAlgorithms

/-!
# Timestamps and the era they leave out

A timestamp has the seconds since 1900 modulo 2^32; the number of the era, the quotient, is not on
the wire.  The conversion puts every timestamp into era 0, so a difference of two timestamps is that
of the instants exactly if these lie in one era: this decides when the on-wire formulas are those
of the true instants (`calculateDelayOffset_encode_iff`).  The clock reading is encoded in era 0 and
saturates behind it (`ntpTimestampNow_eq_encode_iff`).
-/

namespace Dntpd

open CInt

/-! ### Instants -/

/-- An instant: seconds since 1900, and the fraction of the second that a timestamp has. -/
structure Instant where
  sec : ℤ
  frac : UInt32
  deriving DecidableEq

namespace Instant

/-- The timestamp of an instant: its seconds modulo 2^32. -/
def encode (i : Instant) : NtpTimestamp := ⟨UInt32.ofNat (i.sec % 4294967296).toNat, i.frac⟩

/-- The era of an instant. -/
def era (i : Instant) : ℤ := i.sec / 4294967296

/-- Nanoseconds since 1900. -/
def ns (i : Instant) : ℤ := i.sec * 1000000000 + (i.frac.toNat * 1000000000 / 4294967296 : ℕ)

/-- Units of 2^-32 seconds since 1900. -/
def units (i : Instant) : ℤ := i.sec * 4294967296 + i.frac.toNat

/-- The distance of two instants is below 2^31 seconds. -/
def Near (i j : Instant) : Prop := |i.units - j.units| < 2 ^ 63

instance (i j : Instant) : Decidable (Near i j) := by unfold Near; infer_instance

theorem Near.ns_sub {i j : Instant} (h : Near i j) :
    |i.ns - j.ns| ≤ 2147483648 * 1000000000 := by
  have hi := i.frac.toNat_lt
  have hj := j.frac.toNat_lt
  unfold Near units at h
  unfold ns
  rw [abs_lt] at h
  rw [abs_le]
  constructor <;> omega

end Instant

/-- The conversion reads every timestamp as one of era 0. -/
theorem ntpTimestampToNs_encode (i : Instant) :
    ntpTimestampToNs i.encode =
      i.ns - (i.era * 4294967296 + 2208988800) * 1000000000 := by
  have hlow : 0 ≤ i.sec % 4294967296 := Int.emod_nonneg _ (by decide)
  have hhigh : i.sec % 4294967296 < 4294967296 := Int.emod_lt_of_pos _ (by decide)
  have hsec : ((UInt32.ofNat (i.sec % 4294967296).toNat).toNat : ℤ) = i.sec % 4294967296 := by
    rw [UInt32.toNat_ofNat']
    omega
  rw [ntpTimestampToNs_eq]
  unfold Instant.encode Instant.ns Instant.era
  dsimp only
  rw [hsec]
  omega

/-! ### The on-wire formulas -/

/-- The true delay, in nanoseconds. -/
def trueDelay (i1 i2 i3 i4 : Instant) : ℤ := (i4.ns - i1.ns) - (i3.ns - i2.ns)

/-- Twice the true offset, in nanoseconds. -/
def trueOffset2 (i1 i2 i3 i4 : Instant) : ℤ := (i2.ns - i1.ns) + (i3.ns - i4.ns)

/-- The on-wire formulas of true instants. -/
def delayOffset (i1 i2 i3 i4 : Instant) : Option (UInt64 × ℤ) :=
  if trueDelay i1 i2 i3 i4 < 0 then none
  else some (UInt64.ofNat ((trueDelay i1 i2 i3 i4).tdiv 1000).toNat,
    ((trueOffset2 i1 i2 i3 i4).tdiv 2).tdiv 1000)

/-- Four instants with pairwise distances below 2^31 seconds. -/
structure NearInstants (i1 i2 i3 i4 : Instant) : Prop where
  near12 : i1.Near i2
  near13 : i1.Near i3
  near14 : i1.Near i4
  near23 : i2.Near i3
  near24 : i2.Near i4
  near34 : i3.Near i4

section

variable {i1 i2 i3 i4 : Instant}

/-- The formulas miss the true values by whole eras. -/
theorem calculateDelayOffset_encode (i1 i2 i3 i4 : Instant) :
    calculateDelayOffset i1.encode i2.encode i3.encode i4.encode =
      (let delayNs := trueDelay i1 i2 i3 i4
        - ((i4.era - i1.era) - (i3.era - i2.era)) * 4294967296000000000
       let offsetNs := trueOffset2 i1 i2 i3 i4
        - ((i2.era - i1.era) + (i3.era - i4.era)) * 4294967296000000000
       if delayNs < 0 then none
       else some (UInt64.ofNat (delayNs.tdiv 1000).toNat, (offsetNs.tdiv 2).tdiv 1000)) := by
  -- every timestamp is off by the eras of its instant
  have hdelay : (ntpTimestampToNs i4.encode - ntpTimestampToNs i1.encode)
      - (ntpTimestampToNs i3.encode - ntpTimestampToNs i2.encode) = trueDelay i1 i2 i3 i4
        - ((i4.era - i1.era) - (i3.era - i2.era)) * 4294967296000000000 := by
    simp only [ntpTimestampToNs_encode, trueDelay]
    ring
  have hoffset : (ntpTimestampToNs i2.encode - ntpTimestampToNs i1.encode)
      + (ntpTimestampToNs i3.encode - ntpTimestampToNs i4.encode) = trueOffset2 i1 i2 i3 i4
        - ((i2.era - i1.era) + (i3.era - i4.era)) * 4294967296000000000 := by
    simp only [ntpTimestampToNs_encode, trueOffset2]
    ring
  rw [calculateDelayOffset_eq]
  dsimp only
  rw [hdelay, hoffset]

/-- A difference of eras shows: a value moved by whole eras does not have the same microseconds. -/
theorem eq_zero_of_tdiv_eq {x k : ℤ} (h : ((x - k * 4294967296000000000).tdiv 2).tdiv 1000
    = (x.tdiv 2).tdiv 1000) : k = 0 := by
  have hx := tdiv_bounds x (b := 2) (by decide)
  have hx' := tdiv_bounds (x - k * 4294967296000000000) (b := 2) (by decide)
  have hmicro := tdiv_bounds (x.tdiv 2) (b := 1000) (by decide)
  have hmicro' := tdiv_bounds ((x - k * 4294967296000000000).tdiv 2) (b := 1000) (by decide)
  omega

theorem Instant.Near.era_sub {i j : Instant} (h : i.Near j) :
    -1 ≤ i.era - j.era ∧ i.era - j.era ≤ 1 := by
  have hi := i.frac.toNat_lt
  have hj := j.frac.toNat_lt
  unfold Instant.Near Instant.units at h
  unfold Instant.era
  rw [abs_lt] at h
  constructor <;> omega

/-- Instants of one era before the round trip, and of one era behind it, give the true values. -/
theorem calculateDelayOffset_of_era_eq (h12 : i1.era = i2.era) (h34 : i3.era = i4.era) :
    calculateDelayOffset i1.encode i2.encode i3.encode i4.encode = delayOffset i1 i2 i3 i4 := by
  have hdelay : (i4.era - i1.era) - (i3.era - i2.era) = 0 := by omega
  have hoffset : (i2.era - i1.era) + (i3.era - i4.era) = 0 := by omega
  rw [calculateDelayOffset_encode, hdelay, hoffset, Int.zero_mul]
  dsimp only
  rw [Int.sub_zero, Int.sub_zero]
  rfl

/-- If the true delay is not negative, only these do. -/
theorem calculateDelayOffset_encode_iff (h : NearInstants i1 i2 i3 i4)
    (hdelay : 0 ≤ trueDelay i1 i2 i3 i4) :
    calculateDelayOffset i1.encode i2.encode i3.encode i4.encode = delayOffset i1 i2 i3 i4 ↔
      i1.era = i2.era ∧ i3.era = i4.era := by
  refine ⟨fun heq => ?_, fun hera => calculateDelayOffset_of_era_eq hera.1 hera.2⟩
  have htrue : delayOffset i1 i2 i3 i4 =
      some (UInt64.ofNat ((trueDelay i1 i2 i3 i4).tdiv 1000).toNat,
        ((trueOffset2 i1 i2 i3 i4).tdiv 2).tdiv 1000) := if_neg (not_lt.mpr hdelay)
  rw [calculateDelayOffset_encode, htrue] at heq
  dsimp only at heq
  split_ifs at heq with hneg
  obtain ⟨hdelayUs, hoffsetUs⟩ := Prod.mk.inj (Option.some_injective _ heq)
  have hoffset := eq_zero_of_tdiv_eq hoffsetUs
  -- the delays in microseconds fit their 64 bits, so they are equal as integers
  have hera12 := h.near12.era_sub
  have hera34 := h.near34.era_sub
  have hns14 := abs_le.mp h.near14.ns_sub
  have hns23 := abs_le.mp h.near23.ns_sub
  have hbound : trueDelay i1 i2 i3 i4 ≤ 4294967296000000000 := by
    unfold trueDelay
    omega
  have hnat := congrArg UInt64.toNat hdelayUs
  rw [UInt64.toNat_ofNat', UInt64.toNat_ofNat', Int.tdiv_eq_ediv_of_nonneg hdelay,
    Int.tdiv_eq_ediv_of_nonneg (not_lt.mp hneg)] at hnat
  omega

end

/-! ### The clock reading -/

/-- The instant of a system time. -/
def Instant.ofTimespec (ts : Timespec) : Instant :=
  ⟨ts.sec + ntpUnixEpochDelta, UInt32.ofNat (ts.nsec * 4294967296 / 1000000000)⟩

/-- A time of era 0 is encoded, any other one saturates. -/
theorem ntpTimestampNow_eq (ts : Timespec) (h : InInt64 ts.sec) :
    ntpTimestampNow (.ok ts) =
      if (Instant.ofTimespec ts).era = 0 then (Instant.ofTimespec ts).encode
      else ⟨4294967295, 4294967295⟩ := by
  unfold InInt64 at h
  unfold ntpTimestampNow Instant.ofTimespec Instant.era Instant.encode ntpUnixEpochDelta
  dsimp only
  by_cases hera : (ts.sec + 2208988800) / 4294967296 = 0
  · have hsec : ((ts.sec % 18446744073709551616 + 2208988800) % 18446744073709551616).toNat
        = ((ts.sec + 2208988800) % 4294967296).toNat := by omega
    rw [if_pos hera, if_neg (by omega), hsec]
  · rw [if_neg hera, if_pos (by omega)]

/-- The fraction of a time is never all ones, so a saturated reading is not an encoding. -/
theorem ntpTimestampNow_eq_encode_iff (ts : Timespec) (h : InInt64 ts.sec) :
    ntpTimestampNow (.ok ts) = (Instant.ofTimespec ts).encode ↔
      (Instant.ofTimespec ts).era = 0 := by
  rw [ntpTimestampNow_eq ts h]
  constructor
  · intro heq
    by_contra hera
    rw [if_neg hera] at heq
    have hfrac : 4294967295 = UInt32.ofNat (ts.nsec * 4294967296 / 1000000000) :=
      congrArg NtpTimestamp.frac heq
    have hnat := congrArg UInt32.toNat hfrac
    have hnsec := ts.nsec_lt
    rw [UInt32.toNat_ofNat'] at hnat
    have hmax : (4294967295 : UInt32).toNat = 4294967295 := rfl
    omega
  · intro hera
    rw [if_pos hera]

/-- What the arithmetic of timestamps is without an era: exact if the first two instants share one
and the last two do, and a clock reading is the encoding of its time in era 0 and all ones
outside it. -/
theorem timestamps_within_era :
    (∀ i1 i2 i3 i4 : Instant, NearInstants i1 i2 i3 i4 → i1.era = i2.era → i3.era = i4.era →
        calculateDelayOffset i1.encode i2.encode i3.encode i4.encode = delayOffset i1 i2 i3 i4) ∧
      (∀ i1 i2 i3 i4 : Instant, NearInstants i1 i2 i3 i4 → 0 ≤ trueDelay i1 i2 i3 i4 →
        calculateDelayOffset i1.encode i2.encode i3.encode i4.encode = delayOffset i1 i2 i3 i4 →
        i1.era = i2.era ∧ i3.era = i4.era) ∧
      ∀ ts : Timespec, InInt64 ts.sec →
        (ntpTimestampNow (.ok ts) = (Instant.ofTimespec ts).encode ↔
            (Instant.ofTimespec ts).era = 0) ∧
          ((Instant.ofTimespec ts).era ≠ 0 →
            ntpTimestampNow (.ok ts) = ⟨4294967295, 4294967295⟩) :=
  ⟨fun _ _ _ _ _ h12 h34 => calculateDelayOffset_of_era_eq h12 h34,
    fun _ _ _ _ h hdelay heq => (calculateDelayOffset_encode_iff h hdelay).mp heq,
    fun ts h => ⟨ntpTimestampNow_eq_encode_iff ts h,
      fun hera => (ntpTimestampNow_eq ts h).trans (if_neg hera)⟩⟩

/-- An exchange within era 1, and a clock reading of 2023. -/
theorem timestamps_within_era_sample :
    calculateDelayOffset (Instant.mk 4294967300 0).encode (Instant.mk 4294967301 0).encode
        (Instant.mk 4294967301 0).encode (Instant.mk 4294967302 0).encode = some (2000000, 0) ∧
      ntpTimestampNow (.ok ⟨1700000000, 0, by decide⟩) = ⟨3908988800, 0⟩ := by
  obtain ⟨hexact, -, hclock⟩ := timestamps_within_era
  constructor
  · rw [hexact ⟨4294967300, 0⟩ ⟨4294967301, 0⟩ ⟨4294967301, 0⟩ ⟨4294967302, 0⟩
      ⟨by decide, by decide, by decide, by decide, by decide, by decide⟩ (by decide) (by decide)]
    decide
  · rw [(hclock ⟨1700000000, 0, by decide⟩ (by decide)).1.mpr (by decide)]
    decide

/-- A request sent in the last second of era 0 and answered in era 1 has a negative delay for the
code; and every time from the start of era 1 on reads as the same constant. -/
theorem timestamps_past_era :
    (NearInstants ⟨4294967295, 0⟩ ⟨4294967296, 0⟩ ⟨4294967296, 0⟩ ⟨4294967297, 0⟩ ∧
        calculateDelayOffset (Instant.mk 4294967295 0).encode (Instant.mk 4294967296 0).encode
          (Instant.mk 4294967296 0).encode (Instant.mk 4294967297 0).encode
        ≠ delayOffset ⟨4294967295, 0⟩ ⟨4294967296, 0⟩ ⟨4294967296, 0⟩ ⟨4294967297, 0⟩) ∧
      ntpTimestampNow (.ok ⟨2085978496, 0, by decide⟩)
        ≠ (Instant.ofTimespec ⟨2085978496, 0, by decide⟩).encode ∧
      ntpTimestampNow (.ok ⟨2085978496, 0, by decide⟩)
        = ntpTimestampNow (.ok ⟨2085978497, 0, by decide⟩) :=
  ⟨⟨⟨by decide, by decide, by decide, by decide, by decide, by decide⟩, by decide⟩, by decide,
    by decide⟩

end Dntpd

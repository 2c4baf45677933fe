import Dntpd.Library.Rescale
import Dntpd.Spec.NtpAlgorithms

/-!
# The encoding of the clock

A clock reading of era 0 is encoded in units of 2^-32 s, which are finer than its nanoseconds, and
decoded into nanoseconds.  Both ways round down, so a reading comes back as it was or one
nanosecond less; the encoding keeps the order of readings strictly, and the decoding the order of
timestamps (`clockEncoding_roundTrip`).
-/

namespace Dntpd

open Rescale

/-! ### Orders -/

/-- The order of timestamps: by the seconds, then by the fraction. -/
def NtpTimestamp.Before (t t' : NtpTimestamp) : Prop :=
  t.sec < t'.sec ∨ t.sec = t'.sec ∧ t.frac < t'.frac

/-- The order of clock readings. -/
def Timespec.Before (ts ts' : Timespec) : Prop :=
  ts.sec < ts'.sec ∨ ts.sec = ts'.sec ∧ ts.nsec < ts'.nsec

/-! ### Readings -/

/-- A clock reading from the Unix epoch to the end of era 0. -/
structure EraReading where
  ts : Timespec
  sec_nonneg : 0 ≤ ts.sec
  sec_le : ts.sec ≤ 2 ^ 32 - 1 - 2208988800

namespace EraReading

/-- The nanoseconds of the reading. -/
def ns (r : EraReading) : ℤ := r.ts.sec * 1000000000 + r.ts.nsec

/-- What `ntp_timestamp_now` builds from the reading. -/
def encode (r : EraReading) : NtpTimestamp := ntpTimestampNow (.ok r.ts)

/-- The seconds fit, so the encoding does not saturate. -/
theorem encode_eq (r : EraReading) :
    r.encode = ⟨UInt32.ofNat (r.ts.sec + 2208988800).toNat,
      UInt32.ofNat (rescale 1000000000 4294967296 r.ts.nsec)⟩ := by
  have hlow := r.sec_nonneg
  have hhigh := r.sec_le
  have hsec : ((r.ts.sec % 18446744073709551616 + 2208988800) % 18446744073709551616).toNat =
      (r.ts.sec + 2208988800).toNat := by omega
  unfold encode ntpTimestampNow ntpUnixEpochDelta
  dsimp only
  rw [hsec, if_neg (by omega)]
  rfl

theorem toNat_sec_encode (r : EraReading) :
    (r.encode.sec.toNat : ℤ) = r.ts.sec + 2208988800 := by
  have hlow := r.sec_nonneg
  have hhigh := r.sec_le
  rw [encode_eq, UInt32.toNat_ofNat']
  omega

theorem toNat_frac_encode (r : EraReading) :
    r.encode.frac.toNat = rescale 1000000000 4294967296 r.ts.nsec := by
  have hlt := rescale_lt (b := 4294967296) (by decide) r.ts.nsec_lt
  rw [encode_eq, UInt32.toNat_ofNat']
  exact Nat.mod_eq_of_lt hlt

/-- The decoded nanoseconds of the second are those of the reading, rescaled there and back. -/
theorem ntpTimestampToNs_encode (r : EraReading) :
    ntpTimestampToNs r.encode = r.ts.sec * 1000000000 +
      (rescale 4294967296 1000000000 (rescale 1000000000 4294967296 r.ts.nsec) : ℕ) := by
  rw [ntpTimestampToNs_eq, toNat_sec_encode, toNat_frac_encode]
  unfold rescale
  ring

theorem ntpTimestampToNs_encode_near (r : EraReading) :
    ntpTimestampToNs r.encode = r.ns ∨ ntpTimestampToNs r.encode = r.ns - 1 := by
  obtain ⟨hle, hge⟩ := rescale_rescale (a := 1000000000) (b := 4294967296) (by decide) (by decide)
    r.ts.nsec
  rw [ntpTimestampToNs_encode, ns]
  omega

theorem encode_before {r r' : EraReading} (h : r.ts.Before r'.ts) :
    r.encode.Before r'.encode := by
  have hsec := r.toNat_sec_encode
  have hsec' := r'.toNat_sec_encode
  rcases h with hlt | ⟨heq, hlt⟩
  · left
    rw [UInt32.lt_iff_toNat_lt]
    omega
  · right
    refine ⟨UInt32.toNat_inj.mp (by omega), ?_⟩
    rw [UInt32.lt_iff_toNat_lt, toNat_frac_encode, toNat_frac_encode]
    exact rescale_strictMono (by decide) (by decide) hlt

end EraReading

/-- The decoding keeps the order. -/
theorem ntpTimestampToNs_le_of_before {t t' : NtpTimestamp} (h : t.Before t') :
    ntpTimestampToNs t ≤ ntpTimestampToNs t' := by
  have hfrac := t.frac.toNat_lt
  rw [ntpTimestampToNs_eq, ntpTimestampToNs_eq]
  rcases h with hlt | ⟨heq, hlt⟩
  · -- a fraction is less than a second
    rw [UInt32.lt_iff_toNat_lt] at hlt
    omega
  · rw [UInt32.lt_iff_toNat_lt] at hlt
    have hns := rescale_mono 4294967296 1000000000 hlt.le
    unfold rescale at hns
    rw [heq]
    omega

/-- **Round trip of the clock**: a reading decodes to its nanoseconds or to one less, later readings
have later timestamps, and later timestamps decode to no earlier nanoseconds. -/
theorem clockEncoding_roundTrip :
    (∀ r : EraReading, ntpTimestampToNs r.encode = r.ns ∨ ntpTimestampToNs r.encode = r.ns - 1) ∧
      (∀ r r' : EraReading, r.ts.Before r'.ts → r.encode.Before r'.encode) ∧
      (∀ t t' : NtpTimestamp, t.Before t' → ntpTimestampToNs t ≤ ntpTimestampToNs t') ∧
      ∀ r r' : EraReading, r.ts.Before r'.ts →
        ntpTimestampToNs r.encode ≤ ntpTimestampToNs r'.encode :=
  ⟨EraReading.ntpTimestampToNs_encode_near, fun _ _ h => EraReading.encode_before h,
    fun _ _ h => ntpTimestampToNs_le_of_before h,
    fun _ _ h => ntpTimestampToNs_le_of_before (EraReading.encode_before h)⟩

/-- The last nanosecond of a second and the first of the next. -/
theorem clockEncoding_roundTrip_boundary : ∃ r r' : EraReading, r.ns = 999999999 ∧
    r'.ns = 1000000000 ∧ r.encode.Before r'.encode ∧
      ntpTimestampToNs r.encode ≤ ntpTimestampToNs r'.encode := by
  let r : EraReading := ⟨⟨0, 999999999, by decide⟩, by decide, by decide⟩
  let r' : EraReading := ⟨⟨1, 0, by decide⟩, by decide, by decide⟩
  have hbefore : r.ts.Before r'.ts := .inl (by decide)
  refine ⟨r, r', ?_, ?_, clockEncoding_roundTrip.2.1 r r' hbefore,
    clockEncoding_roundTrip.2.2.2 r r' hbefore⟩
  · rw [EraReading.ns]
    norm_num [r]
  · rw [EraReading.ns]
    norm_num [r']

end Dntpd

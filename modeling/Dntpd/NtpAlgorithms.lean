import Dntpd.Types

/-!
# Timestamp arithmetic and the on-wire formulas

These are in `ntp_algorithms.c`; the clock reading `ntp_timestamp_now` is in `time_sync.c`.
Each `int64_t` operation of the source is an exact integer operation under `CInt.int64`.
-/

namespace Dntpd

open CInt

/-- `NS_PER_SEC`. -/
def nsPerSec : ℤ := 1000000000

/-- `abs64`. -/
def abs64 (v : ℤ) : ℤ := if v < 0 then int64 (-v) else v

/-- `ntp_timestamp_to_ns`: Unix nanoseconds of an NTP timestamp, clamped to `int64_t`. -/
def ntpTimestampToNs (t : NtpTimestamp) : ℤ :=
  let sec := int64 ((t.sec.toNat : ℤ) - ntpUnixEpochDelta)
  if sec > int64Max.tdiv nsPerSec - 1 then int64Max
  else if sec < int64Min.tdiv nsPerSec + 1 then int64Min
  else
    let nsec := (t.frac.toUInt64 * 1000000000) >>> 32
    int64 (int64 (sec * nsPerSec) + (nsec.toNat : ℤ))

/-- `calculate_delay_offset`: the round-trip delay and the clock offset in microseconds, or `none`
(and no output written) when the delay is negative. -/
def calculateDelayOffset (t1 t2 t3 t4 : NtpTimestamp) : Option (UInt64 × ℤ) :=
  let T1 := ntpTimestampToNs t1
  let T2 := ntpTimestampToNs t2
  let T3 := ntpTimestampToNs t3
  let T4 := ntpTimestampToNs t4
  let delayNs := int64 (int64 (T4 - T1) - int64 (T3 - T2))
  let offsetNs := (int64 (int64 (T2 - T1) + int64 (T3 - T4))).tdiv 2
  if delayNs < 0 then none
  else some (UInt64.ofNat (delayNs.tdiv 1000).toNat, offsetNs.tdiv 1000)

/-- `ntp_local_stratum_from_peer`. -/
def ntpLocalStratumFromPeer (peerStratum : UInt8) : UInt8 :=
  if peerStratum = 0 ∨ peerStratum > 15 then 16
  else
    let s := peerStratum.toUInt16 + 1
    if s > 15 then 15 else s.toUInt8

/-- `ntp_u16_16_from_us`. -/
def ntpU16_16FromUs (us : UInt64) : UInt32 :=
  if us > 18446744073709551615 / 65536 then 4294967295
  else
    let v := (us * 65536) / 1000000
    if v > 4294967295 then 4294967295 else v.toUInt32

/-- `ntp_timestamp_now`: the NTP timestamp of a clock reading; `{0, 0}` when the clock cannot be
read, all ones past the end of the 32-bit seconds. -/
def ntpTimestampNow (clock : Except Errno Timespec) : NtpTimestamp :=
  match clock with
  | .error _ => ⟨0, 0⟩
  | .ok ts =>
    let sec := ((ts.sec % 18446744073709551616 + ntpUnixEpochDelta) % 18446744073709551616).toNat
    if sec > 4294967295 then ⟨4294967295, 4294967295⟩
    else ⟨UInt32.ofNat sec, UInt32.ofNat (ts.nsec * 4294967296 / 1000000000)⟩

end Dntpd
